import Disbursement.Proofs.Program.Evolution
import Disbursement.Proofs.Redemption.Bits

/-!
# Who may change a record

Only the authorities that are listed change what this program keeps, whatever accounts a call names
and in whatever places. `VaultGoverned`, `ScheduleGoverned` and `MarkerGoverned` say which fields of
a record may change, by which instruction, and who has signed; `Governed` says it of any account of
this program, and `Appeared` of one that was not there before. `only_authorities_change_records` is
the statement for every successful call.
-/

namespace Disbursement

/-- One bitmap is the other with one more bit set. -/
structure RedemptionBitmap.AddsBit (before after : RedemptionBitmap) (index : UInt16) : Prop where
  free : before.bitAt index.toNat = false
  bitAt_eq : ∀ position,
    after.bitAt position = (before.bitAt position || decide (index.toNat = position))
  size_eq : after.size = before.size

theorem RedemptionBitmap.addsBit_of_mark {before after : RedemptionBitmap} {index : UInt16}
    (h : before.mark index = .ok after) : before.AddsBit after index where
  free := (exists_mark_iff.1 ⟨after, h⟩).2
  bitAt_eq := bitAt_mark h
  size_eq := size_mark h

namespace Program

variable {c d : Chain} {call : Call} {i : Instruction} {address : Address} {targets : List Address}

/-! ## One record -/

/-- What a call may make of a vault. -/
structure VaultGoverned (call : Call) (i : Instruction) (v w : Vault) : Prop where
  bump_eq : w.bump = v.bump
  signerNonce_eq : w.signerNonce = v.signerNonce
  /-- The owner replaces the admins. -/
  admins : w.admins ≠ v.admins → i = .setVault w.admins ∧ call.signs v.owner = true
  /-- The candidate becomes the owner. -/
  owner : w.owner ≠ v.owner → i = .acceptOwnership ∧
    v.ownership.candidate? = some w.owner ∧ call.signs w.owner = true
  /-- The owner names or drops a candidate, or the candidate has accepted. -/
  candidate : w.ownership.candidate? ≠ v.ownership.candidate? →
    ((∃ candidate, i = .transferOwnership candidate ∧
          w.ownership.candidate? = some candidate) ∨
        i = .cancelOwnershipTransfer ∧ w.ownership.candidate? = none) ∧
      call.signs v.owner = true ∨
    i = .acceptOwnership ∧ v.ownership.candidate? = some w.owner ∧ call.signs w.owner = true ∧
      w.ownership.candidate? = none

theorem VaultGoverned.refl (v : Vault) : VaultGoverned call i v v where
  bump_eq := rfl
  signerNonce_eq := rfl
  admins h := absurd rfl h
  owner h := absurd rfl h
  candidate h := absurd rfl h

theorem VaultGoverned.of_changes {v w : Vault} (h : v.Changes call.signs i w) :
    VaultGoverned call i v w := by
  refine ⟨h.bump_eq, h.signerNonce_eq, fun hadmins => ?_, fun howner => ?_, fun hcandidate => ?_⟩
  · cases h with
    | admins admins signed => exact ⟨rfl, signed⟩
    | proposed | accepted | cancelled => exact absurd rfl hadmins
  · cases h with
    | admins => exact absurd rfl howner
    | proposed => exact absurd rfl howner
    | accepted previous candidate signed pending =>
      exact ⟨rfl, by rw [pending]; rfl, signed⟩
    | cancelled => exact absurd rfl howner
  · cases h with
    | admins => exact absurd rfl hcandidate
    | proposed candidate signed => exact .inl ⟨.inl ⟨candidate, rfl, rfl⟩, signed⟩
    | accepted previous candidate signed pending =>
      exact .inr ⟨rfl, by rw [pending]; rfl, signed, rfl⟩
    | cancelled candidate signed => exact .inl ⟨.inr ⟨rfl, rfl⟩, signed⟩

/-- What a call may make of a schedule. -/
structure ScheduleGoverned (c : Chain) (call : Call) (i : Instruction) (s t : Schedule) :
    Prop where
  fixed : t = { s with isActive := t.isActive, redemptions := t.redemptions }
  /-- The owner or an admin of its vault opens or closes it. -/
  isActive : t.isActive ≠ s.isActive → i = .setScheduleStatus t.isActive ∧
    ∃ v : Vault, (c.account s.vault).loadRecord = .ok v ∧ v.SignedByAdmin call.signs
  /-- A leaf is redeemed that was not. -/
  redemptions : t.redemptions ≠ s.redemptions →
    (i.kind = .redeemToken ∨ i.kind = .redeemTokenMulti ∨ i.kind = .redeemTokenNft) ∧
      ∃ r, i = .redeem r ∧ s.redemptions.AddsBit t.redemptions r.index

theorem ScheduleGoverned.refl (s : Schedule) : ScheduleGoverned c call i s s where
  fixed := rfl
  isActive h := absurd rfl h
  redemptions h := absurd rfl h

/-- What a call may make of a marker: it is redeemed, and was not. -/
def MarkerGoverned (i : Instruction) (m n : Marker) : Prop :=
  n ≠ m → i.kind = .redeemTokenNftCollection ∧ m.isRedeemed = false ∧
    n = { m with isRedeemed := true }

/-! ## Any account -/

/-- What a call may make of an account of this program. -/
structure Governed (c d : Chain) (call : Call) (i : Instruction) (address : Address) : Prop where
  isOwn : (d.account address).isOwn
  length_eq : (d.account address).data.length = (c.account address).data.length
  vault : ∀ v : Vault, (c.account address).loadRecord = .ok v →
    ∃ w, (d.account address).loadRecord = .ok w ∧ VaultGoverned call i v w
  schedule : ∀ s : Schedule, (c.account address).loadRecord = .ok s →
    ∃ t, (d.account address).loadRecord = .ok t ∧ ScheduleGoverned c call i s t
  marker : ∀ m : Marker, (c.account address).loadRecord = .ok m →
    ∃ n, (d.account address).loadRecord = .ok n ∧ MarkerGoverned i m n
  /-- Data that hold no record do not change. -/
  other : (∀ v : Vault, (c.account address).loadRecord ≠ .ok v) →
    (∀ s : Schedule, (c.account address).loadRecord ≠ .ok s) →
    (∀ m : Marker, (c.account address).loadRecord ≠ .ok m) →
      (d.account address).data = (c.account address).data

/-- What a new account of this program holds, and who has signed for it. -/
inductive Appeared (c d : Chain) (call : Call) (address : Address) : Instruction → Prop where
  /-- A vault of the one who signs. -/
  | vault (path : Digest) (owner : Address) (bump signerNonce : UInt8)
      (signed : call.signs owner = true)
      (stored : (d.account address).loadRecord = .ok (Vault.create owner bump signerNonce)) :
      Appeared c d call address (.createVault path)
  /-- A schedule of a vault whose owner or admin signs. -/
  | schedule (value : UInt8) (terms : ScheduleTerms) (kind : ScheduleKind) (bump : UInt8)
      (s : Schedule) (v : Vault) (loaded : (c.account s.vault).loadRecord = .ok v)
      (signed : v.SignedByAdmin call.signs)
      (new : Schedule.create s.vault bump call.now kind terms = .ok s)
      (stored : (d.account address).loadRecord = .ok s) :
      Appeared c d call address (.createSchedule value terms)
  /-- A marker that is not redeemed. -/
  | marker (index : UInt16) (nftMint : Address) (m : Marker) (slot : m.index = index)
      (free : m.isRedeemed = false) (stored : (d.account address).loadRecord = .ok m) :
      Appeared c d call address (.initRedeemIndex index nftMint)

namespace Governed

theorem of_agreesOff (h : c.AgreesOff d targets) (hmem : address ∉ targets)
    (hown : (c.account address).isOwn) : Governed c d call i address where
  isOwn := (h address hmem).1.2 hown
  length_eq := by rw [(h address hmem).2 hown]
  vault v hv := ⟨v, (h.loadRecord_iff hmem).2 hv, .refl v⟩
  schedule s hs := ⟨s, (h.loadRecord_iff hmem).2 hs, .refl s⟩
  marker m hm := ⟨m, (h.loadRecord_iff hmem).2 hm, fun hne => absurd rfl hne⟩
  other _ _ _ := (h address hmem).2 hown

theorem of_vault {v w : Vault} (h : c.Turns d address v w) (hgoverned : VaultGoverned call i v w) :
    Governed c d call i address where
  isOwn := Account.isOwn_of_loadRecord h.stored
  length_eq := h.length_eq
  vault v' hv' := by
    obtain rfl := Except.ok.inj (h.loaded.symm.trans hv')
    exact ⟨w, h.stored, hgoverned⟩
  schedule _ hs :=
    absurd rfl (Chain.ne_of_loadRecord Record.mark_vault_ne_mark_schedule h.loaded hs)
  marker _ hm := absurd rfl (Chain.ne_of_loadRecord Record.mark_vault_ne_mark_marker h.loaded hm)
  other hnone _ _ := absurd h.loaded (hnone v)

theorem of_schedule {s t : Schedule} (h : c.Turns d address s t)
    (hgoverned : ScheduleGoverned c call i s t) : Governed c d call i address where
  isOwn := Account.isOwn_of_loadRecord h.stored
  length_eq := h.length_eq
  vault _ hv := absurd rfl (Chain.ne_of_loadRecord Record.mark_vault_ne_mark_schedule hv h.loaded)
  schedule s' hs' := by
    obtain rfl := Except.ok.inj (h.loaded.symm.trans hs')
    exact ⟨t, h.stored, hgoverned⟩
  marker _ hm := absurd rfl (Chain.ne_of_loadRecord Record.mark_schedule_ne_mark_marker h.loaded hm)
  other _ hnone _ := absurd h.loaded (hnone s)

theorem of_marker {m n : Marker} (h : c.Turns d address m n) (hgoverned : MarkerGoverned i m n) :
    Governed c d call i address where
  isOwn := Account.isOwn_of_loadRecord h.stored
  length_eq := h.length_eq
  vault _ hv := absurd rfl (Chain.ne_of_loadRecord Record.mark_vault_ne_mark_marker hv h.loaded)
  schedule _ hs :=
    absurd rfl (Chain.ne_of_loadRecord Record.mark_schedule_ne_mark_marker hs h.loaded)
  marker m' hm' := by
    obtain rfl := Except.ok.inj (h.loaded.symm.trans hm')
    exact ⟨n, h.stored, hgoverned⟩
  other _ _ hnone := absurd h.loaded (hnone m)

end Governed

/-! ## Redemptions -/

variable {r : RedeemRequest}

/-- The entitlements that a bitmap remembers are those of three instructions. -/
theorem kind_redeem_of_bitmap (h : r.entitlement.kind.trackingMode = .bitmap) :
    (Instruction.redeem r).kind = .redeemToken ∨ (Instruction.redeem r).kind = .redeemTokenMulti ∨
      (Instruction.redeem r).kind = .redeemTokenNft := by
  rw [Instruction.kind]
  cases he : r.entitlement with
  | wallet => exact .inl rfl
  | walletMint mint => exact .inr (.inl rfl)
  | nft mint group => exact .inr (.inr rfl)
  | collection mint group =>
    rw [he] at h
    exact absurd h (by simp [Entitlement.kind, ScheduleKind.trackingMode])

theorem kind_redeem_of_marker (h : r.entitlement.kind.trackingMode = .marker) :
    (Instruction.redeem r).kind = .redeemTokenNftCollection := by
  rw [Instruction.kind]
  cases he : r.entitlement with
  | collection mint group => rfl
  | wallet | walletMint mint | nft mint group =>
    rw [he] at h
    exact absurd h (by simp [Entitlement.kind, ScheduleKind.trackingMode])

/-! ## All instructions -/

/-- An account that was there is governed. -/
theorem Writes.governed (h : Writes c call d i) (hown : (c.account address).isOwn) :
    Governed c d call i address := by
  -- an account that is not named stays as it is, and a new one was not there before
  have other {targets : List Address} (helsewhere : c.AgreesOff d targets)
      (htargets : ∀ target ∈ targets, address = target → Governed c d call i address) :
      Governed c d call i address := by
    by_cases hmem : address ∈ targets
    · exact htargets address hmem rfl
    · exact .of_agreesOff helsewhere hmem hown
  have new {α : Type} [Record α] {value : α} {target : Address} {space : ℕ}
      (hcreates : c.Creates d target value space) : Governed c d call i address :=
    other hcreates.elsewhere (List.forall_mem_singleton.2 fun heq =>
      absurd hown (heq ▸ hcreates.foreign))
  cases h with
  | opensVault _ _ _ _ _ _ _ _ _ creates => exact new creates
  | publishes _ _ _ _ _ _ _ _ _ _ _ _ creates => exact new creates
  | createsMarker _ _ _ _ _ _ _ _ _ _ creates => exact new creates
  | withdraws _ _ elsewhere => exact .of_agreesOff elsewhere List.not_mem_nil hown
  | changesVault _ target v w change turns elsewhere =>
    refine other elsewhere (List.forall_mem_singleton.2 ?_)
    rintro rfl
    exact .of_vault turns (.of_changes change)
  | setsStatus isActive target v s loaded signed turns elsewhere =>
    refine other elsewhere (List.forall_mem_singleton.2 ?_)
    rintro rfl
    exact .of_schedule turns
      { fixed := rfl
        isActive := fun _ => ⟨rfl, v, loaded, signed⟩
        redemptions := fun hne => absurd rfl hne }
  | setsBit r target s bits mode _ mark turns elsewhere =>
    refine other elsewhere (List.forall_mem_singleton.2 ?_)
    rintro rfl
    exact .of_schedule turns
      { fixed := rfl
        isActive := fun hne => absurd rfl hne
        redemptions := fun _ =>
          ⟨kind_redeem_of_bitmap mode, r, rfl, RedemptionBitmap.addsBit_of_mark mark⟩ }
  | redeemsMarker r target schedule m s mode free turns same elsewhere =>
    refine other elsewhere (List.forall_mem_cons.2 ⟨?_, List.forall_mem_singleton.2 ?_⟩)
    · rintro rfl
      exact .of_marker turns fun _ => ⟨kind_redeem_of_marker mode, free, rfl⟩
    · rintro rfl
      exact .of_schedule same (.refl s)

/-- An account that was not there was created. -/
theorem Writes.appeared (h : Writes c call d i) (hforeign : ¬(c.account address).isOwn)
    (hown : (d.account address).isOwn) : Appeared c d call address i := by
  have named {targets : List Address} (helsewhere : c.AgreesOff d targets) : address ∈ targets := by
    by_contra hmem
    exact hforeign ((helsewhere address hmem).1.1 hown)
  have changed {α : Type} [Record α] {value : α} {target : Address}
      (hload : (c.account target).loadRecord = .ok value) : address ≠ target := by
    rintro rfl
    exact hforeign (Account.isOwn_of_loadRecord hload)
  cases h with
  | opensVault path owner target signer bump signerNonce signed _ _ creates =>
    obtain rfl := List.mem_singleton.1 (named creates.elsewhere)
    exact .vault path owner bump signerNonce signed creates.stored
  | publishes value terms kind vault target v bump s loaded signed _ new creates =>
    obtain rfl := List.mem_singleton.1 (named creates.elsewhere)
    have hvault : vault = s.vault := by
      obtain ⟨-, rfl⟩ := Schedule.create_eq_ok_iff.1 new
      rfl
    subst hvault
    exact .schedule value terms kind bump s v loaded signed new creates.stored
  | createsMarker index nftMint schedule target s bump _ _ _ _ creates =>
    obtain rfl := List.mem_singleton.1 (named creates.elsewhere)
    exact .marker index nftMint _ rfl rfl creates.stored
  | withdraws _ _ elsewhere => exact absurd (named elsewhere) List.not_mem_nil
  | changesVault _ target v w change turns elsewhere =>
    exact absurd (List.mem_singleton.1 (named elsewhere)) (changed turns.loaded)
  | setsStatus isActive target v s loaded signed turns elsewhere =>
    exact absurd (List.mem_singleton.1 (named elsewhere)) (changed turns.loaded)
  | setsBit r target s bits mode _ mark turns elsewhere =>
    exact absurd (List.mem_singleton.1 (named elsewhere)) (changed turns.loaded)
  | redeemsMarker r target schedule m s mode free turns same elsewhere =>
    rcases List.mem_cons.1 (named elsewhere) with heq | hmem
    · exact absurd heq (changed turns.loaded)
    · exact absurd (List.mem_singleton.1 hmem) (changed same.loaded)

/-- Only the authorities that are listed change the records. After every successful call, each
account of this program is still one, of the same length, and what it holds has changed at most as
the instruction and its signers allow; and each account that has become one holds a new record,
created by an instruction for that and signed for. -/
theorem only_authorities_change_records {receipt : Receipt} (h : execute c call = .ok receipt) :
    ∃ i, Instruction.decode call.data = .ok i ∧ ∀ address,
      ((c.account address).isOwn → Governed c receipt.chain call i address) ∧
        (¬(c.account address).isOwn → (receipt.chain.account address).isOwn →
          Appeared c receipt.chain call address i) := by
  obtain ⟨-, i, out, hdecode, hperform, rfl⟩ := execute_eq_ok_iff.1 h
  have hwrites := writes_perform hperform
  exact ⟨i, hdecode, fun address => ⟨hwrites.governed, hwrites.appeared⟩⟩

/-! ## A change of owner -/

/-- A vault whose owner has proposed another one. -/
def proposedVault : Vault where
  bump := 255
  signerNonce := 254
  ownership := .pending (Bytes32.ofNatBE 1) (Bytes32.ofNatBE 2)
  admins := [Bytes32.ofNatBE 4]

/-- A chain with that vault and nothing else. -/
def proposedChain : Chain where
  account address :=
    if address = Bytes32.ofNatBE 3 then
      { Account.vacant with owner := Address.program, data := Record.encode proposedVault }
    else .vacant

/-- The candidate accepts. -/
def acceptance : Call where
  program := Address.program
  accounts := [⟨Bytes32.ofNatBE 2, true, false⟩, ⟨Bytes32.ofNatBE 3, false, true⟩]
  data := InstructionKind.acceptOwnership.mark
  now := 0

theorem decode_acceptance : Instruction.decode acceptance.data = .ok .acceptOwnership :=
  toOption_eq_some_iff.1 (by decide +kernel)

theorem execute_acceptance :
    ∃ receipt, execute proposedChain acceptance = .ok receipt ∧
      (receipt.chain.account (Bytes32.ofNatBE 3)).loadRecord =
        .ok { proposedVault with ownership := .owned (Bytes32.ofNatBE 2) } := by
  have hrun : ((execute proposedChain acceptance).toOption.bind fun receipt =>
      ((receipt.chain.account (Bytes32.ofNatBE 3)).loadRecord :
        Except EntryError Vault).toOption) =
      some { proposedVault with ownership := .owned (Bytes32.ofNatBE 2) } := by
    decide +kernel
  obtain ⟨receipt, hreceipt, hload⟩ := Option.bind_eq_some_iff.1 hrun
  exact ⟨receipt, toOption_eq_some_iff.1 hreceipt, toOption_eq_some_iff.1 hload⟩

/-- The candidate becomes the owner, which only its own acceptance may do. -/
theorem records_after_acceptance :
    ∃ receipt w, execute proposedChain acceptance = .ok receipt ∧
      (receipt.chain.account (Bytes32.ofNatBE 3)).loadRecord = .ok w ∧
      w.owner = Bytes32.ofNatBE 2 ∧ w.ownership.candidate? = none ∧
      VaultGoverned acceptance .acceptOwnership proposedVault w := by
  obtain ⟨receipt, hexecute, hload⟩ := execute_acceptance
  obtain ⟨i, hdecode, hall⟩ := only_authorities_change_records hexecute
  obtain rfl := Except.ok.inj (decode_acceptance.symm.trans hdecode)
  have hbefore : (proposedChain.account (Bytes32.ofNatBE 3)).loadRecord = .ok proposedVault :=
    toOption_eq_some_iff.1 (by decide +kernel)
  obtain ⟨w, hw, hgoverned⟩ :=
    ((hall _).1 (Account.isOwn_of_loadRecord hbefore)).vault proposedVault hbefore
  obtain rfl := Except.ok.inj (hload.symm.trans hw)
  exact ⟨receipt, _, hexecute, hload, rfl, rfl, hgoverned⟩

end Program

end Disbursement
