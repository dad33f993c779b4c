import Disbursement.Proofs.Program.Evolution

/-!
# Custody is isolated

Nobody loses assets who has not agreed to it. An account that is no token account loses lamports
only if it signs, or as the signer of a vault that pays; a token account loses tokens only as the
fee source of the claimant, or as an account of the signer of a vault that pays. `CustodyPays` lists
when the signer of a vault pays, and how much at most: the owner or an admin withdraws, or a claim
on a schedule of that very vault is accepted. The totals over all accounts stay.
`custody_is_isolated` says so of every successful call, whatever accounts it names.
-/

namespace Disbursement.Program

variable {c d : Chain} {call : Call} {i : Instruction} {address : Address}

/-! ## Who pays -/

/-- A redemption whose claim is accepted, on a schedule of the vault whose signer pays. -/
structure Admitted (c : Chain) (call : Call) (r : RedeemRequest) (a : RedeemAccounts)
    (settlement : Settlement) : Prop where
  taken : RedeemTaken c call r.entitlement a
  ofVault : a.schedule.record.vault = a.vault.address
  custody : (Identity.signer a.vault.address).addressWith a.vault.record.signerNonce
    Address.program = some a.signer
  accepted : ∃ marker, findMarker c a r = .ok marker ∧
    (r.claim a.user).settle a.schedule.record marker call.now = .ok settlement

/-- The signer of the vault that an instruction names pays in an asset, at most so much. -/
inductive CustodyPays (c : Chain) (call : Call) (signer : Address) :
    Asset → Instruction → ℕ → Prop where
  | sol (amount : UInt64) (vault : Address) (v : Vault)
      (named : call.addresses[1]? = some vault) (loaded : (c.account vault).loadRecord = .ok v)
      (custody : (Identity.signer vault).addressWith v.signerNonce Address.program = some signer)
      (signed : v.SignedByAdmin call.signs) :
      CustodyPays c call signer .native (.withdrawSol amount) amount.toNat
  | token (amount : UInt64) (mint vault : Address) (v : Vault)
      (named : call.addresses[1]? = some vault) (loaded : (c.account vault).loadRecord = .ok v)
      (custody : (Identity.signer vault).addressWith v.signerNonce Address.program = some signer)
      (signed : v.SignedByAdmin call.signs) :
      CustodyPays c call signer (.token mint) (.withdrawToken amount) amount.toNat
  | redeem (r : RedeemRequest) (asset : Asset) (a : RedeemAccounts) (settlement : Settlement)
      (admitted : Admitted c call r a settlement) (pays : a.signer = signer)
      (owed : settlement.payout.receiving.asset = asset) :
      CustodyPays c call signer asset (.redeem r) r.receivingAmount.toNat

/-- A token account pays the sending leg of a redemption: it is the second account behind the
others, and the claimant, who signs, may spend from it. -/
inductive FeePaid (c : Chain) (call : Call) (source : Address) (t : TokenAccount) :
    Instruction → ℕ → Prop where
  | redeem (r : RedeemRequest) (a : RedeemAccounts) (settlement : Settlement)
      (admitted : Admitted c call r a settlement) (named : a.fees[1]? = some source)
      (spends : t.owner = a.user ∨ t.delegate.get? = some a.user) :
      FeePaid c call source t (.redeem r) r.sendingAmount.toNat

/-- Nobody loses assets who has not agreed to it. -/
structure Isolated (c : Chain) (call : Call) (d : Chain) (i : Instruction) : Prop where
  lamports : ∀ address, (c.account address).owner ≠ Address.tokenProgram →
    (c.account address).lamports ≤ (d.account address).lamports ∨ call.signs address = true ∨
      ∃ amount, CustodyPays c call address .native i amount ∧
        (c.account address).lamports.toNat ≤ (d.account address).lamports.toNat + amount
  tokens : ∀ address t, (c.account address).loadToken = .ok t →
    ∃ u, (d.account address).loadToken = .ok u ∧ t.Continues u ∧
      ∃ fee paid, t.amount.toNat ≤ u.amount.toNat + fee + paid ∧
        (fee = 0 ∨ FeePaid c call address t i fee) ∧
        (paid = 0 ∨ CustodyPays c call t.owner (.token t.mint) i paid)
  totalLamports_eq : d.totalLamports = c.totalLamports
  totalTokens_eq : ∀ mint, d.totalTokens mint = c.totalTokens mint

/-- A flow isolates custody if everything that flows has been agreed to. -/
theorem Isolated.of_flow {lamports tokens : Address → ℕ} (h : c.Flow d lamports tokens)
    (hlamports : ∀ a, lamports a = 0 ∨ call.signs a = true ∨
      CustodyPays c call a .native i (lamports a))
    (htokens : ∀ a t, (c.account a).loadToken = .ok t → ∃ fee paid, tokens a = fee + paid ∧
      (fee = 0 ∨ FeePaid c call a t i fee) ∧
      (paid = 0 ∨ CustodyPays c call t.owner (.token t.mint) i paid)) : Isolated c call d i where
  lamports address hforeign := by
    have hle := h.lamports_le hforeign
    rcases hlamports address with hnone | hsigns | hpays
    · rw [hnone, Nat.add_zero] at hle
      exact .inl (UInt64.le_iff_toNat_le.2 hle)
    · exact .inr (.inl hsigns)
    · exact .inr (.inr ⟨_, hpays, hle⟩)
  tokens address t ht := by
    obtain ⟨u, hu, hcontinues, hle⟩ := h.tokens_le ht
    obtain ⟨fee, paid, hsum, hfee, hpaid⟩ := htokens address t ht
    rw [hsum, ← Nat.add_assoc] at hle
    exact ⟨u, hu, hcontinues, fee, paid, hle, hfee, hpaid⟩
  totalLamports_eq := h.totalLamports_eq
  totalTokens_eq := h.totalTokens_eq

/-- Nothing flows. -/
theorem Isolated.of_still (h : c.Flow d 0 0) : Isolated c call d i :=
  .of_flow h (fun _ => .inl rfl) fun _ _ _ => ⟨0, 0, rfl, .inl rfl, .inl rfl⟩

/-- One account pays lamports, and it has signed. -/
theorem Isolated.of_signed {payer : Address} {cost : ℕ} (h : c.Flow d (Pi.single payer cost) 0)
    (hsigns : call.signs payer = true) : Isolated c call d i := by
  refine .of_flow h (fun a => ?_) fun _ _ _ => ⟨0, 0, rfl, .inl rfl, .inl rfl⟩
  by_cases ha : a = payer
  · exact .inr (.inl (ha ▸ hsigns))
  · exact .inl (Pi.single_eq_of_ne ha _)

/-! ## Redemptions -/

section Redeem

variable {r : RedeemRequest} {a : RedeemAccounts} {marker : Option Marker}
  {settlement : Settlement} {marked paid : Chain} {out : Outcome} {leg : Leg} {holder : Address}
  {spends : Address → TokenAccount → Prop}

/-- What flows when a leg is paid. -/
theorem LegPaid.exists_flow (h : LegPaid c d leg holder spends) :
    ∃ lamports tokens : Address → ℕ, c.Flow d lamports tokens ∧
      (∀ a, lamports a = 0 ∨
        a = holder ∧ leg.asset = .native ∧ lamports a = leg.amount.toNat) ∧
      ∀ a, tokens a = 0 ∨ ∃ held, (c.account a).loadToken = .ok held ∧ spends a held ∧
        leg.asset = .token held.mint ∧ tokens a = leg.amount.toNat := by
  cases h with
  | nothing same =>
    subst same
    exact ⟨0, 0, .refl _, fun _ => .inl rfl, fun _ => .inl rfl⟩
  | native asset pays =>
    refine ⟨_, _, pays.toFlow, fun a => ?_, fun _ => .inl rfl⟩
    by_cases ha : a = holder
    · exact .inr ⟨ha, asset, by rw [ha, Pi.single_eq_same]⟩
    · exact .inl (Pi.single_eq_of_ne ha _)
  | token source held asset loaded spends pays =>
    refine ⟨_, _, pays.toFlow, fun _ => .inl rfl, fun a => ?_⟩
    by_cases ha : a = source
    · subst ha
      exact .inr ⟨held, loaded, spends, asset, Pi.single_eq_same _ _⟩
    · exact .inl (Pi.single_eq_of_ne ha _)

/-- The checks on the accounts of a redemption tie its custody to its schedule. -/
theorem of_requireRedeemAccounts {e : Entitlement} {u : Unit}
    (h : requireRedeemAccounts call a e = .ok u) :
    a.schedule.record.vault = a.vault.address ∧
      (Identity.signer a.vault.address).addressWith a.vault.record.signerNonce Address.program =
        some a.signer := by
  unfold requireRedeemAccounts at h
  obtain ⟨⟨⟩, -, h⟩ := bind_eq_ok_iff.1 h
  obtain ⟨⟨⟩, -, h⟩ := bind_eq_ok_iff.1 h
  obtain ⟨⟨⟩, hvault, h⟩ := bind_eq_ok_iff.1 h
  refine ⟨requireVaultOf_eq_ok_iff.1 (lift_refusal_eq_ok_iff.1 hvault), ?_⟩
  -- the custody is checked next, with or without a marker in between
  split at h
  · obtain ⟨⟨⟩, -, h⟩ := bind_eq_ok_iff.1 h
    obtain ⟨⟨⟩, hcustody, -⟩ := bind_eq_ok_iff.1 h
    exact requireSeeds_eq_ok_iff.1 (lift_entry_eq_ok_iff.1 hcustody)
  · obtain ⟨⟨⟩, hcustody, -⟩ := bind_eq_ok_iff.1 h
    exact requireSeeds_eq_ok_iff.1 (lift_entry_eq_ok_iff.1 hcustody)

variable (h : Redeemed c call r a marker settlement marked paid out)
include h

theorem Redeemed.admitted : Admitted c call r a settlement where
  taken := h.taken
  ofVault := (of_requireRedeemAccounts h.checked).1
  custody := (of_requireRedeemAccounts h.checked).2
  accepted := ⟨marker, h.found, h.settled⟩

/-- What is paid are the amounts of the request. -/
theorem Redeemed.amounts_eq : settlement.payout.receiving.amount = r.receivingAmount ∧
    ∀ leg, settlement.payout.sending = some leg → leg.amount = r.sendingAmount := by
  rw [Claim.payout_of_settle h.settled]
  refine ⟨rfl, fun leg hleg => ?_⟩
  simp only [Payout.ofAllocation] at hleg
  split at hleg
  · obtain rfl := Option.some.inj hleg
    rfl
  · exact absurd hleg (by simp)

/-- The marker is stored without moving anything. -/
theorem Redeemed.still_marked : c.Flow marked 0 0 ∧
    ∀ address, (marked.account address).loadToken = (c.account address).loadToken := by
  cases hmode : r.entitlement.kind.trackingMode with
  | bitmap =>
    obtain ⟨_, -, -, rfl⟩ := h.by_bitmap hmode
    exact ⟨.refl _, fun _ => rfl⟩
  | marker =>
    obtain ⟨_, _, _, _, _, _, -, -, hslot, -, hstore, -⟩ := h.by_marker hmode
    have hown := Account.isOwn_of_loadRecord hslot
    exact ⟨.of_storeRecord hown hstore, Chain.loadToken_storeRecord hown hstore⟩

/-- So is the schedule. -/
theorem Redeemed.still_stored : paid.Flow out.chain 0 0 := by
  have hpaid := (h.agreesOff.loadRecord_iff List.not_mem_nil).2 h.evolves_marked.2
  exact .of_storeRecord (Account.isOwn_of_loadRecord hpaid) h.stored

/-- The claimant pays the sending leg, and the signer of the vault the receiving one. -/
theorem Redeemed.isolated : Isolated c call out.chain (.redeem r) := by
  obtain ⟨hreceiving, hsending⟩ := h.amounts_eq
  obtain ⟨hstill, hsame⟩ := h.still_marked
  obtain ⟨collected, hcollected, hpaid⟩ := paid_of_payOut h.payOut
  obtain ⟨feeLamports, feeTokens, hfee, hfeeLamports, hfeeTokens⟩ :
      ∃ lamports tokens : Address → ℕ, marked.Flow collected lamports tokens ∧
        (∀ source, lamports source = 0 ∨ call.signs source = true) ∧
        ∀ source t, (c.account source).loadToken = .ok t →
          tokens source = 0 ∨ FeePaid c call source t (.redeem r) (tokens source) := by
    rcases hcollected with ⟨-, rfl⟩ | ⟨leg, hleg, hcollect⟩
    · exact ⟨0, 0, .refl _, fun _ => .inl rfl, fun _ _ _ => .inl rfl⟩
    · obtain ⟨lamports, tokens, hflow, hlamports, htokens⟩ := hcollect.exists_flow
      refine ⟨lamports, tokens, hflow, fun source => ?_, fun source t ht => ?_⟩
      · rcases hlamports source with hnone | ⟨rfl, -⟩
        · exact .inl hnone
        · exact .inr h.taken.signs
      · rcases htokens source with hnone | ⟨held, hheld, ⟨hnamed, hspends⟩, -, hamount⟩
        · exact .inl hnone
        · rw [hsame, ht] at hheld
          obtain rfl := Except.ok.inj hheld
          rw [hamount, hsending leg hleg]
          exact .inr (.redeem r a settlement h.admitted hnamed hspends)
  obtain ⟨payLamports, payTokens, hpay, hpayLamports, hpayTokens⟩ := hpaid.exists_flow
  have hbefore := hstill.trans hfee
  have hflow := (hbefore.trans hpay).trans h.still_stored
  rw [hreceiving] at hpayLamports hpayTokens
  simp only [zero_add, add_zero] at hflow
  refine .of_flow hflow (fun source => ?_) fun source t ht => ?_
  · rcases hfeeLamports source with hnone | hsigns
    · rw [Pi.add_apply, hnone, Nat.zero_add]
      rcases hpayLamports source with hnone' | ⟨rfl, hasset, hamount⟩
      · exact .inl hnone'
      · rw [hamount]
        exact .inr (.inr (.redeem r .native a settlement h.admitted rfl hasset))
    · exact .inr (.inl hsigns)
  · refine ⟨feeTokens source, payTokens source, rfl, hfeeTokens source t ht, ?_⟩
    rcases hpayTokens source with hnone | ⟨held, hheld, howner, hasset, hamount⟩
    · exact .inl hnone
    · -- the account that pays was one of the same mint and owner before the fee was collected
      obtain ⟨u, hu, hcontinues, -⟩ := hbefore.tokens_le ht
      obtain rfl := Except.ok.inj (hheld.symm.trans hu)
      rw [hamount]
      rw [hcontinues.mint_eq] at hasset
      exact .inr (.redeem r _ a settlement h.admitted (howner.symm.trans hcontinues.owner_eq)
        hasset)

end Redeem

/-! ## All instructions -/

theorem isolated_perform {out : Outcome} (h : perform c call i = .ok out) :
    Isolated c call out.chain i := by
  cases i with
  | createVault path =>
    obtain ⟨owner, vault, signer, bump, signerNonce, opened, h⟩ := of_createVault h
    obtain ⟨-, cost, hopens⟩ := opens_openRecord h.openRecord
    exact .of_signed (hopens.flow_storeRecord h.stored) h.signs
  | setVault admins =>
    obtain ⟨_, _, _, htaken, -, -, hstored, -⟩ := of_setVault h
    exact .of_still (.of_storeRecord (Account.isOwn_of_loadRecord htaken.loaded) hstored)
  | transferOwnership newOwner =>
    obtain ⟨_, _, _, htaken, -, -, hstored, -⟩ := of_transferOwnership h
    exact .of_still (.of_storeRecord (Account.isOwn_of_loadRecord htaken.loaded) hstored)
  | acceptOwnership =>
    obtain ⟨_, _, _, _, htaken, -, hstored, -⟩ := of_acceptOwnership h
    exact .of_still (.of_storeRecord (Account.isOwn_of_loadRecord htaken.loaded) hstored)
  | cancelOwnershipTransfer =>
    obtain ⟨_, _, _, _, htaken, -, -, hstored, -⟩ := of_cancelOwnershipTransfer h
    exact .of_still (.of_storeRecord (Account.isOwn_of_loadRecord htaken.loaded) hstored)
  | createSchedule value terms =>
    obtain ⟨admin, vault, schedule, signer, bump, opened, created, h⟩ := of_createSchedule h
    obtain ⟨-, cost, hopens⟩ := opens_openRecord h.openRecord
    exact .of_signed (hopens.flow_storeRecord h.stored) h.signs
  | setScheduleStatus isActive =>
    obtain ⟨_, _, _, h⟩ := of_setScheduleStatus h
    exact .of_still (.of_storeRecord (Account.isOwn_of_loadRecord h.loaded) h.stored)
  | withdrawSol amount =>
    obtain ⟨admin, vault, signer, recipient, h⟩ := of_withdrawSol h
    have hnamed : call.addresses[1]? = some vault.address :=
      List.prefix_iff_getElem?.1 h.accounts 1 (by simp)
    refine .of_flow (pays_payLamports h.paid).toFlow (fun a => ?_)
      fun _ _ _ => ⟨0, 0, rfl, .inl rfl, .inl rfl⟩
    by_cases ha : a = signer
    · subst ha
      rw [Pi.single_eq_same]
      exact .inr (.inr (.sol amount vault.address vault.record hnamed h.loaded h.seeds
        ⟨admin, h.signs, h.authority⟩))
    · exact .inl (Pi.single_eq_of_ne ha _)
  | withdrawToken amount =>
    obtain ⟨admin, vault, signer, sender, recipient, held, h⟩ := of_withdrawToken h
    obtain ⟨paid, hpaid, hmint, howner, hpays⟩ := pays_payTokens h.paid
    have hnamed : call.addresses[1]? = some vault.address :=
      List.prefix_iff_getElem?.1 h.accounts 1 (by simp)
    refine .of_flow hpays.toFlow (fun _ => .inl rfl) fun a t ht => ?_
    by_cases ha : a = sender
    · subst ha
      obtain rfl := Except.ok.inj (hpaid.symm.trans ht)
      refine ⟨0, amount.toNat, by rw [Pi.single_eq_same, Nat.zero_add], .inl rfl, .inr ?_⟩
      rw [howner]
      exact .token amount _ vault.address vault.record hnamed h.loaded h.seeds
        ⟨admin, h.signs, h.authority⟩
    · exact ⟨0, 0, Pi.single_eq_of_ne ha _, .inl rfl, .inl rfl⟩
  | redeem r =>
    obtain ⟨_, _, _, _, _, h⟩ := of_redeem h
    exact h.isolated
  | initRedeemIndex index nftMint =>
    obtain ⟨payer, vault, schedule, address, bump, opened, h⟩ := of_initRedeemIndex h
    obtain ⟨cost, hopens⟩ := opens_openAccount h.openAccount
    exact .of_signed (hopens.flow_storeRecord h.stored) h.signs

/-- Custody is isolated. Whatever accounts a successful call names, each account loses at most what
it has agreed to: by its signature, as the fee source of the claimant who signs, or in the custody
of the one vault that the instruction names. Nothing is made or lost in total. -/
theorem custody_is_isolated {receipt : Receipt} (h : execute c call = .ok receipt) :
    ∃ i, Instruction.decode call.data = .ok i ∧ Isolated c call receipt.chain i := by
  obtain ⟨-, i, out, hdecode, hperform, rfl⟩ := execute_eq_ok_iff.1 h
  exact ⟨i, hdecode, isolated_perform hperform⟩

/-! ## A withdrawal -/

/-- A vault without admins. -/
def fundedVault : Vault :=
  Vault.create (Bytes32.ofNatBE 1) 255 252

/-- The signer of the vault at the address three. -/
def fundedSigner : Address :=
  Bytes32.ofNatBE 0xed76412ec4400cc77513dad592c96d038732bec5fafc3cecb7e6b322fcc1e2ff

/-- A chain with that vault, whose signer holds lamports. -/
def custodyChain : Chain where
  account address :=
    if address = Bytes32.ofNatBE 3 then
      { Account.vacant with owner := Address.program, data := Record.encode fundedVault }
    else if address = fundedSigner then { Account.vacant with lamports := 500 }
    else if address = Address.systemProgram then { Account.vacant with isExecutable := true }
    else .vacant

/-- The owner takes some of them. -/
def withdrawal : Call where
  program := Address.program
  accounts :=
    [⟨Bytes32.ofNatBE 1, true, false⟩, ⟨Bytes32.ofNatBE 3, false, false⟩,
      ⟨fundedSigner, false, true⟩, ⟨Bytes32.ofNatBE 4, false, true⟩,
      ⟨Address.systemProgram, false, false⟩]
  data := (Instruction.withdrawSol 200).encode
  now := 0

theorem decode_withdrawal : Instruction.decode withdrawal.data = .ok (.withdrawSol 200) :=
  toOption_eq_some_iff.1 (by decide +kernel)

theorem execute_withdrawal :
    ∃ receipt, execute custodyChain withdrawal = .ok receipt ∧
      (receipt.chain.account fundedSigner).lamports = 300 := by
  have hrun : (execute custodyChain withdrawal).toOption.map (fun receipt =>
      (receipt.chain.account fundedSigner).lamports) = some 300 := by
    decide +kernel
  obtain ⟨receipt, hreceipt, hlamports⟩ := Option.map_eq_some_iff.1 hrun
  exact ⟨receipt, toOption_eq_some_iff.1 hreceipt, hlamports⟩

/-- The signer of the vault, which does not sign, pays what the owner withdraws, and nobody else
pays. -/
theorem isolation_of_withdrawal :
    ∃ receipt, execute custodyChain withdrawal = .ok receipt ∧
      Isolated custodyChain withdrawal receipt.chain (.withdrawSol 200) ∧
      ∃ amount, CustodyPays custodyChain withdrawal fundedSigner .native (.withdrawSol 200) amount ∧
        200 ≤ amount := by
  obtain ⟨receipt, hexecute, hlamports⟩ := execute_withdrawal
  obtain ⟨i, hdecode, hisolated⟩ := custody_is_isolated hexecute
  obtain rfl := Except.ok.inj (decode_withdrawal.symm.trans hdecode)
  have hbefore : (custodyChain.account fundedSigner).lamports = 500 := by decide +kernel
  have hforeign : (custodyChain.account fundedSigner).owner ≠ Address.tokenProgram := by
    decide +kernel
  refine ⟨receipt, hexecute, hisolated, ?_⟩
  rcases hisolated.lamports fundedSigner hforeign with hle | hsigns | ⟨amount, hpays, hle⟩
  · rw [hbefore, hlamports] at hle
    exact absurd hle (by decide)
  · exact absurd hsigns (by decide +kernel)
  · rw [hbefore, hlamports] at hle
    exact ⟨amount, hpays, Nat.le_of_add_le_add_left hle⟩

end Disbursement.Program
