import Disbursement.Proofs.Chain.Balances
import Disbursement.Proofs.Check
import Disbursement.Proofs.Claim.Payout
import Disbursement.Proofs.Program.Beneficiary
import Disbursement.Proofs.Program.SingleUse
import Disbursement.Proofs.Program.WellFormed
import Disbursement.Proofs.Record.Space
import Disbursement.Proofs.WireFormat

/-!
# The legs of a payout

A redemption moves two amounts at most, one after the other, and nothing else: what the claimant
sends (`SendingLeg`), and then what the claimant receives (`ReceivingLeg`). The accounts are those
at their places in the call, and some of them may be the same. The balances afterwards are written
down as what these two moves make of the balances before (`payout_moves_the_legs`).

The slot is used up before anything is paid. If then a leg fails, so does the whole redemption, and
the chain is the one from before (`attempt`).
-/

namespace Disbursement

namespace Program

variable {c d : Chain} {call : Call} {p : Privileges}
  {source destination target recipient authority mint : Address} {amount : UInt64}

/-! ## Transfers -/

theorem balances_transferLamports (h : transferLamports p c source target amount = .ok d) :
    amount.toNat ≤ c.balances.lamports source ∧
      d.balances = c.balances.moveLamports source target amount.toNat := by
  simp only [transferLamports, bind_eq_ok_iff, mapError_eq_ok_iff] at h
  obtain ⟨-, -, htransfer⟩ := h
  exact SystemProgram.balances_transfer htransfer

theorem balances_transferTokens {held receiving : TokenAccount}
    (hheld : (c.account source).loadToken = .ok held)
    (hreceiving : (c.account destination).loadToken = .ok receiving)
    (h : transferTokens p c source destination authority amount = .ok d) :
    amount.toNat ≤ c.balances.tokens source ∧
      d.balances = c.balances.moveTokens source destination amount.toNat := by
  simp only [transferTokens, bind_eq_ok_iff, mapError_eq_ok_iff] at h
  obtain ⟨-, -, htransfer⟩ := h
  exact TokenProgram.balances_transfer hheld hreceiving htransfer

theorem mint_of_loadToken {t : TokenAccount} (h : (c.account source).loadToken = .ok t) :
    (c.balances.title? source).map Title.mint = some t.mint := by
  rw [(Chain.balances_of_loadToken h).2]
  rfl

/-! ## The legs -/

/-- What the claimant sends goes to the first account behind the named ones, which is the one that
the schedule names. Lamports come from the claimant, tokens from the second account behind the named
ones. -/
inductive SendingLeg (a : RedeemAccounts) (amount : ℕ) (before : Balances) : Balances → Prop where
  | nothing (zero : amount = 0) : SendingLeg a amount before before
  | lamports (positive : 0 < amount)
      (asset : a.schedule.record.sendingMint = Address.nativeMint)
      (target : a.fees[0]? = some a.schedule.record.sendingAccount)
      (enough : amount ≤ before.lamports a.user) :
      SendingLeg a amount before
        (before.moveLamports a.user a.schedule.record.sendingAccount amount)
  | tokens (source : Address) (positive : 0 < amount)
      (asset : a.schedule.record.sendingMint ≠ Address.nativeMint)
      (target : a.fees[0]? = some a.schedule.record.sendingAccount)
      (given : a.fees[1]? = some source)
      (mint : (before.title? source).map Title.mint = some a.schedule.record.sendingMint)
      (mint' : (before.title? a.schedule.record.sendingAccount).map Title.mint =
        some a.schedule.record.sendingMint)
      (enough : amount ≤ before.tokens source) :
      SendingLeg a amount before (before.moveTokens source a.schedule.record.sendingAccount amount)

/-- What the claimant receives comes out of custody: lamports of the signer of the vault for the
claimant, or tokens of an account that the signer owns for the token account of the claimant. -/
inductive ReceivingLeg (a : RedeemAccounts) (mint : Address) (amount : ℕ) (before : Balances) :
    Balances → Prop where
  | nothing (zero : amount = 0) : ReceivingLeg a mint amount before before
  | lamports (positive : 0 < amount) (asset : mint = Address.nativeMint)
      (enough : amount ≤ before.lamports a.signer) :
      ReceivingLeg a mint amount before (before.moveLamports a.signer a.user amount)
  | tokens (wraps : Bool) (positive : 0 < amount) (asset : mint ≠ Address.nativeMint)
      (custody : before.title? a.vaultToken = some { mint, owner := a.signer, wraps })
      (mint' : (before.title? a.userToken).map Title.mint = some mint)
      (enough : amount ≤ before.tokens a.vaultToken) :
      ReceivingLeg a mint amount before (before.moveTokens a.vaultToken a.userToken amount)

variable {a : RedeemAccounts}

theorem sendingLeg_of_collect (hpositive : 0 < amount.toNat)
    (h : collect call c a ⟨.ofMint a.schedule.record.sendingMint, amount⟩ = .ok d) :
    SendingLeg a amount.toNat c.balances d.balances := by
  simp only [collect, bind_eq_ok_iff, demand_eq_ok_iff, ensure_eq_ok_iff, exists_const] at h
  obtain ⟨_, htarget, rfl, h⟩ := h
  split at h
  next hasset =>
    obtain ⟨henough, hmoved⟩ := balances_transferLamports (lift_call_eq_ok_iff.1 h)
    rw [hmoved]
    exact .lamports hpositive (Asset.ofMint_eq_native_iff.1 hasset) htarget henough
  next mint hasset =>
    simp only [bind_eq_ok_iff, demand_eq_ok_iff, ensure_eq_ok_iff, exists_const,
      lift_call_eq_ok_iff, lift_refusal_eq_ok_iff] at h
    obtain ⟨source, hsource, held, hheld, rfl, receiving, hreceiving, hmint, htransfer⟩ := h
    obtain ⟨hne, hsending⟩ := Asset.ofMint_eq_token_iff.1 hasset
    obtain ⟨henough, hmoved⟩ := balances_transferTokens hheld hreceiving htransfer
    rw [hmoved]
    refine .tokens source hpositive hne htarget hsource ?_ ?_ henough
    · rw [mint_of_loadToken hheld, hsending]
    · rw [mint_of_loadToken hreceiving, hmint, hsending]

theorem receivingLeg_of_pay (h : pay call c a ⟨.ofMint mint, amount⟩ = .ok d) :
    ReceivingLeg a mint amount.toNat c.balances d.balances := by
  unfold pay at h
  split at h
  next hzero =>
    obtain rfl := pure_eq_ok_iff.1 h
    exact .nothing (congrArg UInt64.toNat hzero)
  next hnonzero =>
    have hpositive : 0 < amount.toNat := by
      rw [Nat.pos_iff_ne_zero]
      exact fun hzero => hnonzero (UInt64.toNat_inj.1 hzero)
    split at h
    next hasset =>
      simp only [Custody.payLamports, bind_eq_ok_iff, lift_call_eq_ok_iff] at h
      obtain ⟨-, -, -, -, htransfer⟩ := h
      obtain ⟨henough, hmoved⟩ := balances_transferLamports htransfer
      rw [hmoved]
      exact .lamports hpositive (Asset.ofMint_eq_native_iff.1 hasset) henough
    next other hasset =>
      simp only [Custody.payTokens, Custody.checkSource, bind_eq_ok_iff, ensure_eq_ok_iff,
        exists_const, lift_call_eq_ok_iff, lift_refusal_eq_ok_iff] at h
      obtain ⟨held, hheld, ⟨rfl, howner, -⟩, receiving, hreceiving, hmint, htransfer⟩ := h
      obtain ⟨hne, rfl⟩ := Asset.ofMint_eq_token_iff.1 hasset
      obtain ⟨henough, hmoved⟩ := balances_transferTokens hheld hreceiving htransfer
      rw [hmoved]
      refine .tokens held.native.isPresent hpositive hne ?_ ?_ henough
      · rw [(Chain.balances_of_loadToken hheld).2, ← howner]
        rfl
      · rw [mint_of_loadToken hreceiving, hmint]

/-! ## One leg after the other -/

/-- The sending leg is collected, if there is one. -/
inductive Collected (call : Call) (c : Chain) (a : RedeemAccounts) (payout : Payout) :
    Chain → Prop where
  | nothing (none : payout.sending = none) : Collected call c a payout c
  | leg (leg : Leg) (some : payout.sending = some leg) {d : Chain}
      (collects : collect call c a leg = .ok d) : Collected call c a payout d

variable {payout : Payout} {collected : Chain} {failure : Failure}

theorem Collected.of_some (h : Collected call c a payout d) {leg : Leg}
    (hleg : payout.sending = some leg) : collect call c a leg = .ok d := by
  cases h with
  | nothing hnone => rw [hnone] at hleg; cases hleg
  | leg _ hsome hcollects =>
    obtain rfl := Option.some.inj (hsome.symm.trans hleg)
    exact hcollects

theorem Collected.of_none (h : Collected call c a payout d) (hnone : payout.sending = none) :
    d = c := by
  cases h with
  | nothing => rfl
  | leg _ hsome => rw [hnone] at hsome; cases hsome

theorem payOut_eq_ok_iff : payOut call c a payout = .ok d ↔
    ∃ collected, Collected call c a payout collected ∧
      pay call collected a payout.receiving = .ok d := by
  unfold payOut
  constructor
  · intro h
    split at h
    next leg hleg =>
      obtain ⟨collected, hcollect, hpay⟩ := bind_eq_ok_iff.1 h
      exact ⟨collected, .leg leg hleg hcollect, hpay⟩
    next hnone => exact ⟨c, .nothing hnone, h⟩
  · rintro ⟨collected, hcollected, hpay⟩
    cases hcollected with
    | nothing hnone =>
      rw [hnone]
      exact hpay
    | leg leg hleg hcollects =>
      rw [hleg]
      exact bind_eq_ok_iff.2 ⟨collected, hcollects, hpay⟩

/-- Whatever stops a leg stops the payout. -/
theorem payOut_eq_error_of_collect {leg : Leg} (hleg : payout.sending = some leg)
    (h : collect call c a leg = .error failure) : payOut call c a payout = .error failure := by
  unfold payOut
  rw [hleg]
  exact bind_eq_error_iff.2 (.inl h)

theorem payOut_eq_error_of_pay (hcollected : Collected call c a payout collected)
    (h : pay call collected a payout.receiving = .error failure) :
    payOut call c a payout = .error failure := by
  unfold payOut
  cases hcollected with
  | nothing hnone =>
    rw [hnone]
    exact h
  | leg leg hleg hcollects =>
    rw [hleg]
    exact bind_eq_error_iff.2 (.inr ⟨collected, hcollects, h⟩)

/-! ## The whole redemption -/

section Redeem

variable {r : RedeemRequest} {marker : Option Marker} {settlement : Settlement}
  {marked paid : Chain} {out : Outcome}

theorem Redeemed.balances_marked (h : Redeemed c call r a marker settlement marked paid out) :
    marked.balances = c.balances := by
  cases hmode : r.entitlement.kind.trackingMode with
  | bitmap =>
    obtain ⟨_, -, -, rfl⟩ := h.by_bitmap hmode
    rfl
  | marker =>
    obtain ⟨_, _, _, _, _, _, -, -, hslot, -, hstore, -⟩ := h.by_marker hmode
    exact Chain.balances_storeRecord (Account.isOwn_of_loadRecord hslot) hstore

/-- Storing the schedule after the payment changes no balance. -/
theorem Redeemed.balances_stored (h : Redeemed c call r a marker settlement marked paid out) :
    out.chain.balances = paid.balances := by
  obtain ⟨-, hmarked⟩ := h.evolves_marked
  obtain ⟨_, _, hpays⟩ := exists_pays_payOut h.payOut
  have hpaid := hpays.spares.loadRecord hmarked
  exact Chain.balances_storeRecord (Account.isOwn_of_loadRecord hpaid) h.stored

/-- One leg after the other, each as the request and the schedule say. -/
theorem Redeemed.legs (h : Redeemed c call r a marker settlement marked paid out) :
    ∃ sent, SendingLeg a r.sendingAmount.toNat c.balances sent ∧
      ReceivingLeg a (r.entitlement.receivingMint?.getD a.schedule.record.receivingMint)
        r.receivingAmount.toNat sent out.chain.balances := by
  have hpaid := h.payOut
  rw [Claim.payout_of_settle h.settled] at hpaid
  rw [← h.balances_marked, h.balances_stored]
  obtain ⟨collected, hcollected, hpay⟩ := payOut_eq_ok_iff.1 hpaid
  refine ⟨collected.balances, ?_, receivingLeg_of_pay hpay⟩
  by_cases hsending : 0 < r.sendingAmount
  · have hleg : (Payout.ofAllocation a.schedule.record (r.allocation a.user)).sending =
        some ⟨.ofMint a.schedule.record.sendingMint, r.sendingAmount⟩ :=
      if_pos hsending
    exact sendingLeg_of_collect (UInt64.lt_iff_toNat_lt.1 hsending) (hcollected.of_some hleg)
  · have hnone : (Payout.ofAllocation a.schedule.record (r.allocation a.user)).sending = none :=
      if_neg hsending
    have hzero : r.sendingAmount.toNat = 0 := by
      rw [UInt64.lt_iff_toNat_lt, UInt64.toNat_zero] at hsending
      omega
    obtain rfl := hcollected.of_none hnone
    exact .nothing hzero

/-! ## Redemptions that fail to pay -/

/-- The claim is accepted, and its slot is used up; nothing is paid yet. -/
structure Accepted (c : Chain) (call : Call) (r : RedeemRequest) (a : RedeemAccounts)
    (marker : Option Marker) (settlement : Settlement) (marked : Chain) : Prop where
  program : call.program = Address.program
  decoded : Instruction.decode call.data = .ok (.redeem r)
  taken : (takeRedeemAccounts c call r.entitlement).run' call.accounts = .ok a
  checked : requireRedeemAccounts call a r.entitlement = .ok ()
  passed : passGate c a r.entitlement = .ok ()
  found : findMarker c a r = .ok marker
  settled : (r.claim a.user).settle a.schedule.record marker call.now = .ok settlement
  storeMarker : storeMarker c a settlement.marker = .ok marked

/-- Writing the marker hands no account over and keeps all lengths. -/
theorem keeps_storeMarker {m : Option Marker} (h : storeMarker c a m = .ok d) (address : Address) :
    (d.account address).owner = (c.account address).owner ∧
      (d.account address).data.length = (c.account address).data.length := by
  unfold Program.storeMarker at h
  split at h
  next => exact ⟨Chain.owner_storeRecord h address, Chain.length_data_storeRecord h address⟩
  next =>
    obtain rfl := Except.ok.inj h
    exact ⟨rfl, rfl⟩

namespace Accepted

variable (h : Accepted c call r a marker settlement marked)
include h

/-- Both legs are paid next, and whatever stops them stops the redemption. -/
theorem execute_eq : execute c call = (do
    let paid ← payOut call marked a settlement.payout
    let stored ← liftM (paid.storeRecord a.schedule.address settlement.schedule)
    return {
      chain := stored
      events := [.redeemed a.schedule.address r.index a.user
        settlement.payout.receiving.asset.mint r.receivingAmount r.sendingAmount call.now]
      logs := ["Instruction: " ++ (Instruction.redeem r).kind.title, redeemMessage r] }) := by
  unfold execute
  refine (bind_eq_of_ok (a := ()) (ensure_eq_ok_iff.2 h.program)).trans ?_
  refine (bind_eq_of_ok (lift_entry_eq_ok_iff.2 h.decoded)).trans ?_
  have hredeem : perform c call (.redeem r) = (do
      let paid ← payOut call marked a settlement.payout
      let stored ← liftM (paid.storeRecord a.schedule.address settlement.schedule)
      return {
        chain := stored
        event := .redeemed a.schedule.address r.index a.user
          settlement.payout.receiving.asset.mint r.receivingAmount r.sendingAmount call.now
        message := redeemMessage r }) := by
    show redeem c call r = _
    unfold redeem
    refine (bind_eq_of_ok h.taken).trans ?_
    refine (bind_eq_of_ok h.checked).trans ?_
    refine (bind_eq_of_ok (lift_refusal_eq_ok_iff.2 h.passed)).trans ?_
    refine (bind_eq_of_ok h.found).trans ?_
    refine (bind_eq_of_ok (lift_refusal_eq_ok_iff.2 h.settled)).trans ?_
    exact bind_eq_of_ok (lift_entry_eq_ok_iff.2 h.storeMarker)
  rw [hredeem]
  simp only [bind_assoc, pure_bind]

/-- The schedule is as long as it was, so that it can always be stored. -/
theorem exists_stored (hpaid : payOut call marked a settlement.payout = .ok paid) :
    ∃ stored, paid.storeRecord a.schedule.address settlement.schedule = .ok stored := by
  obtain ⟨_, htaken⟩ := run'_eq_ok_iff.1 h.taken
  obtain ⟨hown, hload⟩ := Account.loadRecord_eq_ok_iff.1 (of_takeRedeemAccounts htaken).loaded
  obtain ⟨-, rest, hdata⟩ := (Record.load_eq_ok_iff_encode Schedule.exact).1 hload
  have hcontinues := Claim.continues_of_settle h.settled
  have hlength : (Record.encode settlement.schedule).length =
      (Record.encode a.schedule.record).length := by
    rw [Schedule.length_encode_eq_space_add, Schedule.length_encode_eq_space_add,
      hcontinues.redemptions.size_eq]
  have hfits : (Record.encode settlement.schedule).length ≤
      (c.account a.schedule.address).data.length := by
    rw [hlength, hdata, List.length_append]
    exact Nat.le_add_right _ _
  obtain ⟨howner, hmarked⟩ := keeps_storeMarker h.storeMarker a.schedule.address
  obtain ⟨_, _, hpays⟩ := exists_pays_payOut hpaid
  have hforeign : (marked.account a.schedule.address).owner ≠ Address.tokenProgram := by
    rw [howner, hown]
    exact Address.tokenProgram_ne_program.symm
  rw [← hmarked, ← hpays.data_eq hforeign] at hfits
  exact ⟨_, Chain.storeRecord_eq_ok_iff.2 ⟨_, Record.store_eq_ok_iff.2 ⟨hfits, rfl⟩, rfl⟩⟩

/-- What stops a payout stops the redemption, and the chain stays as it was before the slot was used
up. -/
theorem refused (hfailed : payOut call marked a settlement.payout = .error failure) :
    execute c call = .error failure ∧ attempt c call = c := by
  have hexecute : execute c call = .error failure := by
    rw [h.execute_eq]
    exact bind_eq_error_iff.2 (.inl hfailed)
  exact ⟨hexecute, attempt_of_error hexecute⟩

theorem exists_receipt (hpaid : payOut call marked a settlement.payout = .ok paid) :
    ∃ receipt, execute c call = .ok receipt := by
  obtain ⟨stored, hstored⟩ := h.exists_stored hpaid
  rw [h.execute_eq]
  simp only [bind_eq_ok_iff, lift_entry_eq_ok_iff, pure_eq_ok_iff]
  exact ⟨_, paid, hpaid, stored, hstored, rfl⟩

end Accepted

/-- A payout moves the two legs, and nothing else. When a redemption succeeds, the balances of all
accounts are those from before, after the sending leg and then the receiving leg, with the amounts
of the request, between the accounts at their places in the call, which may be the same. The signer
is the one derived for the vault of the schedule. A call that fails changes nothing. And where a
claim is accepted and its slot used up, only the legs decide: if the sending leg cannot be
collected, or the receiving leg cannot be paid after it, the call fails for that reason and leaves
the chain as it was, the slot included; if both are paid, it succeeds. -/
theorem payout_moves_the_legs (c : Chain) (call : Call) (schedule : Address) (r : RedeemRequest) :
    (∀ receipt, execute c call = .ok receipt → Redeems call schedule r →
      ∃ a sent, RedeemTaken c call r.entitlement a ∧
        requireRedeemAccounts call a r.entitlement = .ok () ∧ a.schedule.address = schedule ∧
        SendingLeg a r.sendingAmount.toNat c.balances sent ∧
        ReceivingLeg a (r.entitlement.receivingMint?.getD a.schedule.record.receivingMint)
          r.receivingAmount.toNat sent receipt.chain.balances) ∧
    (∀ failure, execute c call = .error failure → attempt c call = c) ∧
    ∀ a marker settlement marked, Accepted c call r a marker settlement marked →
      (∀ failure leg, settlement.payout.sending = some leg →
        collect call marked a leg = .error failure →
          execute c call = .error failure ∧ attempt c call = c) ∧
      ∀ collected, Collected call marked a settlement.payout collected →
        (∀ failure, pay call collected a settlement.payout.receiving = .error failure →
          execute c call = .error failure ∧ attempt c call = c) ∧
        ∀ paid, pay call collected a settlement.payout.receiving = .ok paid →
          ∃ receipt, execute c call = .ok receipt := by
  refine ⟨?_, fun failure hfailed => attempt_of_error hfailed, ?_⟩
  · intro receipt hexecute hredeems
    obtain ⟨a, marker, settlement, marked, paid, out, h, haddress, hchain⟩ :=
      redeemed_of_execute hexecute hredeems
    obtain ⟨sent, hsending, hreceiving⟩ := h.legs
    rw [hchain] at hreceiving
    exact ⟨a, sent, h.taken, h.checked, haddress, hsending, hreceiving⟩
  · intro a marker settlement marked h
    refine ⟨?_, ?_⟩
    · intro failure leg hleg hfailed
      exact h.refused (payOut_eq_error_of_collect hleg hfailed)
    · intro collected hcollected
      refine ⟨?_, ?_⟩
      · intro failure hfailed
        exact h.refused (payOut_eq_error_of_pay hcollected hfailed)
      · intro paid hpaid
        exact h.exists_receipt (payOut_eq_ok_iff.2 ⟨collected, hcollected, hpaid⟩)

end Redeem

/-! ## A redemption with two legs -/

/-- Where the wallet pays. -/
def feeAccount : Address :=
  Bytes32.ofNatBE 40

/-- A schedule with a single leaf. It pays seven lamports to the wallet, and asks for three. -/
def payingSchedule : Schedule :=
  { Schedule.blank with
    bump := 255
    vault := Bytes32.ofNatBE 3
    eventId := 1
    root := Bytes32.ofNatBE 0x60886781f8dce5fd1d4ac0d4672501c429d954ee3eff3ec24207cb88de424ed9
    sendingAccount := feeAccount
    isActive := true
    userCount := 1
    redemptions := .empty 1 }

/-- A chain with the vault, its schedule, and a wallet with so many lamports. -/
def payingChain (lamports : UInt64) : Chain where
  account address :=
    if address = Bytes32.ofNatBE 3 then
      { Account.vacant with owner := Address.program, data := Record.encode fundedVault }
    else if address = fundedSigner then { Account.vacant with lamports := 500 }
    else if address = tokenScheduleAddress then
      { Account.vacant with owner := Address.program, data := Record.encode payingSchedule }
    else if address = tokenHolder then { Account.vacant with lamports }
    else if address = Address.tokenProgram ∨ address = Address.systemProgram then
      { Account.vacant with isExecutable := true }
    else .vacant

/-- The leaf, which is the whole tree. -/
def payingRequest : RedeemRequest where
  entitlement := .wallet
  index := 0
  timestamp := 10
  receivingAmount := 7
  sendingAmount := 3
  proof := []

/-- The wallet redeems it. -/
def payingRedemption : Call where
  program := Address.program
  accounts :=
    [⟨Bytes32.ofNatBE 3, false, false⟩, ⟨tokenScheduleAddress, false, true⟩,
      ⟨fundedSigner, false, true⟩, ⟨Bytes32.zero, false, true⟩, ⟨tokenHolder, true, true⟩,
      ⟨Bytes32.ofNatBE 31, false, true⟩, ⟨Address.tokenProgram, false, false⟩,
      ⟨Address.systemProgram, false, false⟩, ⟨feeAccount, false, true⟩]
  data := (Instruction.redeem payingRequest).encode
  now := 10

theorem redeems_payingRedemption :
    Redeems payingRedemption tokenScheduleAddress payingRequest :=
  ⟨toOption_eq_some_iff.1 (by decide +kernel), rfl⟩

theorem execute_payingRedemption :
    ∃ receipt, execute (payingChain 5) payingRedemption = .ok receipt := by
  have hrun : (execute (payingChain 5) payingRedemption).toOption.isSome = true := by
    decide +kernel
  obtain ⟨receipt, hreceipt⟩ := Option.isSome_iff_exists.1 hrun
  exact ⟨receipt, toOption_eq_some_iff.1 hreceipt⟩

/-- With two lamports, the wallet cannot pay three. -/
theorem execute_payingRedemption_poor :
    ∃ failure, execute (payingChain 2) payingRedemption = .error failure := by
  have hrun : (execute (payingChain 2) payingRedemption).toOption.isSome = false := by
    decide +kernel
  cases h : execute (payingChain 2) payingRedemption with
  | error failure => exact ⟨failure, rfl⟩
  | ok receipt =>
    rw [h] at hrun
    cases hrun

/-- The accounts at their places in the call. -/
theorem RedeemTaken.of_payingRedemption {a : RedeemAccounts}
    (h : RedeemTaken (payingChain 5) payingRedemption .wallet a)
    (haddress : a.schedule.address = tokenScheduleAddress) :
    a.schedule.record = payingSchedule ∧ a.signer = fundedSigner ∧ a.user = tokenHolder := by
  have hmarker : a.marker = none := by
    rw [← Option.not_isSome_iff_eq_none, h.marker]
    exact Bool.false_ne_true
  have hholder : a.holder = none := by
    rw [← Option.not_isSome_iff_eq_none, h.holder]
    exact Bool.false_ne_true
  have haccounts := h.accounts
  simp only [RedeemAccounts.addresses, hmarker, hholder] at haccounts
  injection haccounts with _ haccounts
  injection haccounts with _ haccounts
  injection haccounts with hsigner haccounts
  injection haccounts with _ haccounts
  injection haccounts with huser _
  refine ⟨?_, hsigner.symm, huser.symm⟩
  have hload : ((payingChain 5).account tokenScheduleAddress).loadRecord = .ok payingSchedule :=
    toOption_eq_some_iff.1 (by decide +kernel)
  have hrecord := h.loaded
  rw [haddress, hload] at hrecord
  exact (Except.ok.inj hrecord).symm

/-- Three lamports go from the wallet to the fee account, and then seven from the signer of the
vault to the wallet. A wallet that cannot pay three is not paid either. -/
theorem legs_of_wallet :
    (∃ receipt, execute (payingChain 5) payingRedemption = .ok receipt ∧
      receipt.chain.balances =
        ((payingChain 5).balances.moveLamports tokenHolder feeAccount 3).moveLamports
          fundedSigner tokenHolder 7) ∧
    ∃ failure, execute (payingChain 2) payingRedemption = .error failure ∧
      attempt (payingChain 2) payingRedemption = payingChain 2 := by
  refine ⟨?_, ?_⟩
  · obtain ⟨receipt, hexecute⟩ := execute_payingRedemption
    refine ⟨receipt, hexecute, ?_⟩
    obtain ⟨a, sent, htaken, -, haddress, hsending, hreceiving⟩ :=
      (payout_moves_the_legs (payingChain 5) payingRedemption tokenScheduleAddress
        payingRequest).1 receipt hexecute redeems_payingRedemption
    obtain ⟨hrecord, hsigner, huser⟩ := htaken.of_payingRedemption haddress
    have hnative : a.schedule.record.receivingMint = Address.nativeMint := by
      rw [hrecord]
      rfl
    have hsent : sent = (payingChain 5).balances.moveLamports tokenHolder feeAccount 3 := by
      cases hsending with
      | nothing hzero => cases hzero
      | tokens _ _ hasset =>
        rw [hrecord] at hasset
        exact absurd rfl hasset
      | lamports => rw [hrecord, huser]; rfl
    rw [← hsent, ← hsigner, ← huser]
    generalize receipt.chain.balances = after at hreceiving
    cases hreceiving with
    | nothing hzero => cases hzero
    | tokens _ _ hasset => exact absurd hnative hasset
    | lamports => rfl
  · obtain ⟨failure, hexecute⟩ := execute_payingRedemption_poor
    exact ⟨failure, hexecute, (payout_moves_the_legs (payingChain 2) payingRedemption
      tokenScheduleAddress payingRequest).2.1 failure hexecute⟩

end Program

end Disbursement
