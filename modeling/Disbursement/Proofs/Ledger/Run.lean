import Disbursement.Ledger.Basic
import Disbursement.Proofs.Ledger.Arena
import Disbursement.Proofs.Program.Accounts
import Disbursement.Proofs.Vault

/-!
# Runs of a ledger

A ledger lives through a list of operations with any arguments. Those that fail change nothing; the
others are remembered, each with the ledger it found and its answer (`Ledger.successes`).

* `Ledger.perform` is one operation.
* `Ledger.Writes` lists what an operation makes of the records; `effect_perform` says that there is
  nothing else, so later proofs need not look into the operations.
* `sound_perform` and `evolves_perform`: the records stay findable, and each continues as what it
  is.
-/

namespace Disbursement

/-- What can be asked of a ledger. -/
inductive LedgerOperation where
  | setNow (now : Int64)
  | fund (owner mint : Address) (amount : UInt64)
  | mintNft (mint holder : Address) (collection : Option Collection)
  | transferNft (mint target : Address)
  | createVault (owner : Address) (name : String)
  | setVault (caller vault : Address) (admins : List Address)
  | transferOwnership (caller vault newOwner : Address)
  | acceptOwnership (caller vault : Address)
  | cancelOwnershipTransfer (caller vault : Address)
  | createSchedule (caller vault : Address) (kind : ScheduleKind) (terms : ScheduleTerms)
  | setScheduleStatus (caller vault schedule : Address) (isActive : Bool)
  | withdraw (caller vault mint recipient : Address) (amount : UInt64)
  | initRedeemIndex (schedule : Address) (index : UInt16) (nftMint : Address)
  | redeem (user schedule : Address) (request : RedeemRequest)

namespace LedgerOperation

/-- Whether the operation concerns the clock, balances and tokens only. -/
def keepsRecords : LedgerOperation → Bool
  | setNow _ | fund .. | mintNft .. | transferNft .. | withdraw .. => true
  | _ => false

/-- Whether the operation leaves all balances alone. -/
def keepsBalances : LedgerOperation → Bool
  | fund .. | withdraw .. | redeem .. => false
  | _ => true

/-- The vault that the operation changes. -/
def vaultChanged? : LedgerOperation → Option Address
  | setVault _ vault _ | transferOwnership _ vault _ | acceptOwnership _ vault
  | cancelOwnershipTransfer _ vault => some vault
  | _ => none

end LedgerOperation

/-- What an operation returns. -/
inductive LedgerAnswer where
  | done
  | address (address : Address)
  | payout (payout : Payout)
  deriving DecidableEq

/-- An operation that succeeded. -/
structure LedgerSuccess where
  /-- The ledger it found. -/
  before : Ledger
  operation : LedgerOperation
  answer : LedgerAnswer

namespace Ledger

variable {l m paid : Ledger} {operation : LedgerOperation} {operations : List LedgerOperation}
  {answer : LedgerAnswer} {address user : Address} {r : RedeemRequest}

/-- Carry out an operation. -/
def perform (l : Ledger) : LedgerOperation → Except Failure (LedgerAnswer × Ledger)
  | .setNow now => return (.done, { l with now })
  | .fund owner mint amount => return (.done, l.fund owner mint amount)
  | .mintNft mint holder collection => return (.address mint, l.mintNft mint holder collection)
  | .transferNft mint target => return (.done, l.transferNft mint target)
  | .createVault owner name => do
    let (address, l) ← l.createVault owner name
    return (.address address, l)
  | .setVault caller vault admins => do
    let l ← l.setVault caller vault admins
    return (.done, l)
  | .transferOwnership caller vault newOwner => do
    let l ← l.transferOwnership caller vault newOwner
    return (.done, l)
  | .acceptOwnership caller vault => do
    let l ← l.acceptOwnership caller vault
    return (.done, l)
  | .cancelOwnershipTransfer caller vault => do
    let l ← l.cancelOwnershipTransfer caller vault
    return (.done, l)
  | .createSchedule caller vault kind terms => do
    let (address, l) ← l.createSchedule caller vault kind terms
    return (.address address, l)
  | .setScheduleStatus caller vault schedule isActive => do
    let l ← l.setScheduleStatus caller vault schedule isActive
    return (.done, l)
  | .withdraw caller vault mint recipient amount => do
    let l ← l.withdraw caller vault mint recipient amount
    return (.done, l)
  | .initRedeemIndex schedule index nftMint => do
    let (address, l) ← l.initRedeemIndex schedule index nftMint
    return (.address address, l)
  | .redeem user schedule request => do
    let (payout, l) ← l.redeem user schedule request
    return (.payout payout, l)

/-- The operations that succeed when they are carried out one after another. -/
def successes : Ledger → List LedgerOperation → List LedgerSuccess
  | _, [] => []
  | l, operation :: operations =>
    match l.perform operation with
    | .ok (answer, m) => { before := l, operation, answer } :: m.successes operations
    | .error _ => l.successes operations

/-! ## Finding records -/

theorem vault?_eq_some_iff {v : Vault} :
    l.vault? address = some v ↔ l.arena.get? address = some (.vault v) := by
  rw [vault?]
  split <;> simp_all

theorem schedule?_eq_some_iff {s : Schedule} :
    l.schedule? address = some s ↔ l.arena.get? address = some (.schedule s) := by
  rw [schedule?]
  split <;> simp_all

theorem marker?_eq_some_iff {k : Marker} :
    l.marker? address = some k ↔ l.arena.get? address = some (.marker k) := by
  rw [marker?]
  split <;> simp_all

theorem vault_eq_ok_iff {v : Vault} :
    l.vault address = .ok v ↔ l.arena.get? address = some (.vault v) := by
  rw [vault, demand_eq_ok_iff, vault?_eq_some_iff]

theorem schedule_eq_ok_iff {s : Schedule} :
    l.schedule address = .ok s ↔ l.arena.get? address = some (.schedule s) := by
  rw [schedule, demand_eq_ok_iff, schedule?_eq_some_iff]

theorem create_eq_ok_iff {record : LedgerRecord} : l.create address record = .ok m ↔
    ∃ arena, l.arena.create address record = .ok arena ∧ { l with arena } = m := by
  simp only [create, bind_eq_ok_iff, pure_eq_ok_iff]

/-! ## Payments -/

theorem arena_move {source target mint : Address} {amount : UInt64}
    (h : l.move source target mint amount = .ok m) : m.arena = l.arena := by
  simp only [move, bind_eq_ok_iff, pure_eq_ok_iff] at h
  obtain ⟨left, -, grown, -, rfl⟩ := h
  rfl

theorem arena_payOut {signer sendingAccount : Address} {payout : Payout}
    (h : l.payOut user signer sendingAccount payout = .ok m) : m.arena = l.arena := by
  rw [payOut] at h
  cases hsending : payout.sending with
  | none =>
    rw [hsending] at h
    exact arena_move h
  | some leg =>
    rw [hsending] at h
    obtain ⟨collected, hcollected, hpaid⟩ := bind_eq_ok_iff.1 h
    exact (arena_move hpaid).trans (arena_move hcollected)

/-! ## One redemption -/

/-- The schedule is written back, and the marker if there is one. -/
def writeBack (l : Ledger) (address : Address) (slot : Option (Address × Marker))
    (settlement : Settlement) : Ledger :=
  match slot, settlement.marker with
  | some (place, _), some marker =>
    (l.update address (.schedule settlement.schedule)).update place (.marker marker)
  | _, _ => l.update address (.schedule settlement.schedule)

theorem balance_writeBack (l : Ledger) (address : Address) (slot : Option (Address × Marker))
    (settlement : Settlement) : (l.writeBack address slot settlement).balance = l.balance := by
  unfold writeBack
  split <;> rfl

/-- What it takes to redeem from a ledger, and what is left. -/
structure Redeemed (l : Ledger) (user address : Address) (r : RedeemRequest) (s : Schedule)
    (slot : Option (Address × Marker)) (settlement : Settlement) (paid m : Ledger) : Prop where
  passed : l.passGate user r.entitlement = .ok ()
  loaded : l.arena.get? address = some (.schedule s)
  found : l.findMarker s r = .ok slot
  settled : (r.claim user).settle s (slot.map Prod.snd) l.now = .ok settlement
  payOut : ∃ signer, signerOf s.vault = .ok signer ∧
    l.payOut user signer s.sendingAccount settlement.payout = .ok paid
  stored : m = paid.writeBack address slot settlement

theorem of_redeem {payout : Payout} (h : l.redeem user address r = .ok (payout, m)) :
    ∃ s slot settlement paid, Redeemed l user address r s slot settlement paid m ∧
      settlement.payout = payout := by
  simp only [redeem, bind_eq_ok_iff, pure_eq_ok_iff, Program.lift_refusal_eq_ok_iff,
    schedule_eq_ok_iff, Prod.mk.injEq] at h
  obtain ⟨⟨⟩, hpassed, s, hloaded, slot, hfound, settlement, hsettled, signer, hsigner, paid, hpaid,
    hpayout, hstored⟩ := h
  exact ⟨s, slot, settlement, paid,
    { passed := hpassed
      loaded := hloaded
      found := hfound
      settled := hsettled
      payOut := ⟨signer, hsigner, hpaid⟩
      stored := hstored.symm }, hpayout⟩

namespace Redeemed

variable {s : Schedule} {slot : Option (Address × Marker)} {settlement : Settlement}

/-- Only an entitlement of the kind of the schedule redeems from it. -/
theorem kind_eq (h : Redeemed l user address r s slot settlement paid m) :
    s.kind = r.entitlement.kind :=
  (Claim.settle_eq_ok_iff.1 h.settled).2.1

theorem arena_paid (h : Redeemed l user address r s slot settlement paid m) :
    paid.arena = l.arena := by
  obtain ⟨signer, -, hpaid⟩ := h.payOut
  exact arena_payOut hpaid

/-- A bit of the schedule was free and is set. -/
theorem by_bitmap (h : Redeemed l user address r s slot settlement paid m)
    (hmode : s.kind.trackingMode = .bitmap) :
    ∃ bits, s.redemptions.mark r.index = .ok bits ∧
      m.arena = l.arena.update address (.schedule { s with redemptions := bits }) := by
  have hfound := h.found
  rw [findMarker, hmode] at hfound
  obtain rfl := pure_eq_ok_iff.1 hfound
  obtain ⟨bits, hmark, rfl⟩ := Claim.settle_bitmap h.settled hmode
  refine ⟨bits, hmark, ?_⟩
  rw [h.stored, ← h.arena_paid]
  rfl

/-- The marker of the slot was free and is redeemed; the schedule stays as it is. -/
theorem by_marker (h : Redeemed l user address r s slot settlement paid m)
    (hmode : s.kind.trackingMode = .marker) :
    ∃ mint group place bump, ∃ unused used : Marker, r.entitlement = .collection mint group ∧
      (Identity.marker s.eventId r.index (s.markerKey mint)).find Address.program =
        some (place, bump) ∧
      l.arena.get? place = some (.marker unused) ∧ unused.mark r.index = .ok used ∧
      m.arena = (l.arena.update address (.schedule s)).update place (.marker used) := by
  obtain ⟨mint, group, he⟩ := Entitlement.exists_eq_collection (h.kind_eq ▸ hmode)
  obtain ⟨unused, used, hslot, hmark, rfl⟩ := Claim.settle_marker h.settled hmode
  obtain ⟨⟨place, _⟩, rfl, rfl⟩ := Option.map_eq_some_iff.1 hslot
  have hfound := h.found
  simp only [findMarker, hmode, he, Entitlement.token?, addressOf, bind_eq_ok_iff, demand_eq_ok_iff,
    pure_eq_ok_iff, Option.map_some, Option.getD_some, Option.map_eq_some_iff, Prod.mk.injEq,
    marker?_eq_some_iff, Prod.exists] at hfound
  obtain ⟨_, bump, hfind, _, hget, rfl, rfl⟩ := hfound
  refine ⟨mint, group, _, bump, _, used, he, hfind, hget, hmark, ?_⟩
  rw [h.stored, ← h.arena_paid]
  rfl

end Redeemed

/-! ## All operations -/

/-- The slot that a redemption uses up, and what the records become. -/
inductive UsesUp (before : Arena) (address : Address) (r : RedeemRequest) (s : Schedule) :
    Arena → Prop where
  /-- A bit of the schedule is set. -/
  | bit (bits : RedemptionBitmap) (mode : s.kind.trackingMode = .bitmap)
      (mark : s.redemptions.mark r.index = .ok bits) :
      UsesUp before address r s (before.update address (.schedule { s with redemptions := bits }))
  /-- The marker of the slot is redeemed, and the schedule written back as it was. -/
  | marker (mint group place : Address) (bump : UInt8) (unused used : Marker)
      (entitlement : r.entitlement = .collection mint group)
      (derived : (Identity.marker s.eventId r.index (s.markerKey mint)).find Address.program =
        some (place, bump))
      (found : before.get? place = some (.marker unused)) (mark : unused.mark r.index = .ok used) :
      UsesUp before address r s ((before.update address (.schedule s)).update place (.marker used))

/-- What an operation makes of the records of a ledger. -/
inductive Writes (l : Ledger) : LedgerOperation → LedgerAnswer → Arena → Prop where
  /-- The clock, a balance or a token changes. -/
  | nothing {operation : LedgerOperation} {answer : LedgerAnswer}
      (kept : operation.keepsRecords = true) : Writes l operation answer l.arena
  /-- A vault is opened. -/
  | opensVault {owner : Address} {name : String} (address : Address) (v : Vault) (arena : Arena)
      (creates : l.arena.create address (.vault v) = .ok arena) :
      Writes l (.createVault owner name) (.address address) arena
  /-- The authority over a vault changes. -/
  | changesVault {operation : LedgerOperation} (address : Address) (v w : Vault)
      (target : operation.vaultChanged? = some address)
      (found : l.arena.get? address = some (.vault v)) :
      Writes l operation .done (l.arena.update address (.vault w))
  /-- A schedule is published. -/
  | publishes {caller vault : Address} {kind : ScheduleKind} {terms : ScheduleTerms}
      (address : Address) (s : Schedule) (arena : Arena)
      (creates : l.arena.create address (.schedule s) = .ok arena) :
      Writes l (.createSchedule caller vault kind terms) (.address address) arena
  /-- A schedule is opened or closed. -/
  | setsStatus {caller vault address : Address} {isActive : Bool} (s : Schedule)
      (found : l.arena.get? address = some (.schedule s)) :
      Writes l (.setScheduleStatus caller vault address isActive) .done
        (l.arena.update address (.schedule { s with isActive }))
  /-- A marker is created where the slot derives it. -/
  | createsMarker {address : Address} {index : UInt16} {nftMint : Address} (s : Schedule)
      (place : Address) (bump : UInt8) (arena : Arena)
      (found : l.arena.get? address = some (.schedule s))
      (derived : (Identity.marker s.eventId index (s.markerKey nftMint)).find Address.program =
        some (place, bump))
      (creates : l.arena.create place
        (.marker (Marker.create bump address index (s.markerKey nftMint))) = .ok arena) :
      Writes l (.initRedeemIndex address index nftMint) (.address place) arena
  /-- A slot of a schedule is used up. -/
  | redeems {user address : Address} {r : RedeemRequest} {payout : Payout} {arena : Arena}
      (s : Schedule) (found : l.arena.get? address = some (.schedule s))
      (kind : s.kind = r.entitlement.kind) (uses : UsesUp l.arena address r s arena) :
      Writes l (.redeem user address r) (.payout payout) arena

theorem writes_redeem {payout : Payout} (h : l.redeem user address r = .ok (payout, m)) :
    Writes l (.redeem user address r) (.payout payout) m.arena := by
  obtain ⟨s, slot, settlement, paid, hredeemed, -⟩ := of_redeem h
  refine .redeems s hredeemed.loaded hredeemed.kind_eq ?_
  cases hmode : s.kind.trackingMode with
  | bitmap =>
    obtain ⟨bits, hmark, harena⟩ := hredeemed.by_bitmap hmode
    rw [harena]
    exact .bit bits hmode hmark
  | marker =>
    obtain ⟨mint, group, place, bump, unused, used, he, hfind, hget, hmark, harena⟩ :=
      hredeemed.by_marker hmode
    rw [harena]
    exact .marker mint group place bump unused used he hfind hget hmark

/-- There is nothing else that an operation does to the records, and balances change only where
assets are moved or made. -/
theorem effect_perform (h : l.perform operation = .ok (answer, m)) :
    Writes l operation answer m.arena ∧
      (operation.keepsBalances = true → m.balance = l.balance) := by
  cases operation with
  | setNow now =>
    obtain ⟨rfl, rfl⟩ := Prod.mk.inj (pure_eq_ok_iff.1 h)
    exact ⟨.nothing rfl, fun _ => rfl⟩
  | fund owner mint amount =>
    obtain ⟨rfl, rfl⟩ := Prod.mk.inj (pure_eq_ok_iff.1 h)
    exact ⟨.nothing rfl, fun hkeeps => by cases hkeeps⟩
  | mintNft mint holder collection =>
    obtain ⟨rfl, rfl⟩ := Prod.mk.inj (pure_eq_ok_iff.1 h)
    exact ⟨.nothing rfl, fun _ => rfl⟩
  | transferNft mint target =>
    obtain ⟨rfl, rfl⟩ := Prod.mk.inj (pure_eq_ok_iff.1 h)
    exact ⟨.nothing rfl, fun _ => rfl⟩
  | withdraw caller vault mint recipient amount =>
    simp only [perform, withdraw, bind_eq_ok_iff, pure_eq_ok_iff, Prod.mk.injEq,
      Program.lift_refusal_eq_ok_iff] at h
    obtain ⟨_, ⟨signer, -, v, -, -, -, -, -, hmove⟩, rfl, rfl⟩ := h
    rw [arena_move hmove]
    exact ⟨.nothing rfl, fun hkeeps => by cases hkeeps⟩
  | redeem user address r =>
    obtain ⟨⟨payout, m'⟩, hredeem, hanswer⟩ := bind_eq_ok_iff.1 h
    obtain ⟨rfl, rfl⟩ := Prod.mk.inj (pure_eq_ok_iff.1 hanswer)
    exact ⟨writes_redeem hredeem, fun hkeeps => by cases hkeeps⟩
  | createVault owner name =>
    simp only [perform, createVault, create_eq_ok_iff, bind_eq_ok_iff, pure_eq_ok_iff,
      Prod.mk.injEq, Program.lift_refusal_eq_ok_iff, Prod.exists] at h
    obtain ⟨_, _, ⟨address, bump, -, _, nonce, -, _, ⟨arena, hcreate, rfl⟩, rfl, rfl⟩, rfl,
      rfl⟩ := h
    exact ⟨.opensVault address _ arena hcreate, fun _ => rfl⟩
  | setVault caller vault admins =>
    simp only [perform, setVault, bind_eq_ok_iff, pure_eq_ok_iff, Prod.mk.injEq,
      Program.lift_refusal_eq_ok_iff, vault_eq_ok_iff] at h
    obtain ⟨_, ⟨v, hfound, ⟨⟩, -, w, -, rfl⟩, rfl, rfl⟩ := h
    exact ⟨.changesVault vault v w rfl hfound, fun _ => rfl⟩
  | transferOwnership caller vault newOwner =>
    simp only [perform, transferOwnership, bind_eq_ok_iff, pure_eq_ok_iff, Prod.mk.injEq,
      Program.lift_refusal_eq_ok_iff, vault_eq_ok_iff] at h
    obtain ⟨_, ⟨v, hfound, ⟨⟩, -, w, -, rfl⟩, rfl, rfl⟩ := h
    exact ⟨.changesVault vault v w rfl hfound, fun _ => rfl⟩
  | acceptOwnership caller vault =>
    simp only [perform, acceptOwnership, bind_eq_ok_iff, pure_eq_ok_iff, Prod.mk.injEq,
      Program.lift_refusal_eq_ok_iff, vault_eq_ok_iff, Prod.exists] at h
    obtain ⟨_, ⟨v, hfound, _, w, -, rfl⟩, rfl, rfl⟩ := h
    exact ⟨.changesVault vault v w rfl hfound, fun _ => rfl⟩
  | cancelOwnershipTransfer caller vault =>
    simp only [perform, cancelOwnershipTransfer, bind_eq_ok_iff, pure_eq_ok_iff, Prod.mk.injEq,
      Program.lift_refusal_eq_ok_iff, vault_eq_ok_iff, Prod.exists] at h
    obtain ⟨_, ⟨v, hfound, ⟨⟩, -, _, w, -, rfl⟩, rfl, rfl⟩ := h
    exact ⟨.changesVault vault v w rfl hfound, fun _ => rfl⟩
  | createSchedule caller vault kind terms =>
    simp only [perform, createSchedule, create_eq_ok_iff, bind_eq_ok_iff, pure_eq_ok_iff,
      Prod.mk.injEq, Program.lift_refusal_eq_ok_iff, Prod.exists] at h
    obtain ⟨_, _, ⟨v, -, ⟨⟩, -, address, bump, -, s, -, _, ⟨arena, hcreate, rfl⟩, rfl, rfl⟩, rfl,
      rfl⟩ := h
    exact ⟨.publishes address s arena hcreate, fun _ => rfl⟩
  | setScheduleStatus caller vault address isActive =>
    simp only [perform, setScheduleStatus, bind_eq_ok_iff, pure_eq_ok_iff, Prod.mk.injEq,
      Program.lift_refusal_eq_ok_iff, schedule_eq_ok_iff] at h
    obtain ⟨_, ⟨v, -, ⟨⟩, -, s, hfound, ⟨⟩, -, rfl⟩, rfl, rfl⟩ := h
    exact ⟨.setsStatus s hfound, fun _ => rfl⟩
  | initRedeemIndex address index nftMint =>
    simp only [perform, initRedeemIndex, addressOf, create_eq_ok_iff, bind_eq_ok_iff,
      pure_eq_ok_iff, Prod.mk.injEq, Program.lift_refusal_eq_ok_iff, demand_eq_ok_iff,
      schedule_eq_ok_iff, Prod.exists] at h
    obtain ⟨_, _, ⟨s, hfound, ⟨⟩, -, ⟨⟩, -, ⟨⟩, -, place, bump, hfind, _, ⟨arena, hcreate, rfl⟩,
      rfl, rfl⟩, rfl, rfl⟩ := h
    exact ⟨.createsMarker s place bump arena hfound hfind hcreate, fun _ => rfl⟩

theorem writes_perform (h : l.perform operation = .ok (answer, m)) :
    Writes l operation answer m.arena :=
  (effect_perform h).1

theorem balance_perform (h : l.perform operation = .ok (answer, m))
    (hkeeps : operation.keepsBalances = true) : m.balance = l.balance :=
  (effect_perform h).2 hkeeps

/-! ## What becomes of the records -/

section

variable {before after : Arena} {s : Schedule} (h : UsesUp before address r s after)
  (hsound : before.Sound)
include h hsound

theorem UsesUp.sound : after.Sound := by
  cases h with
  | bit => exact hsound.update _ _
  | marker => exact (hsound.update _ _).update _ _

theorem UsesUp.evolves (hfound : before.get? address = some (.schedule s)) :
    before.Evolves after := by
  cases h with
  | bit bits mode mark => exact .of_update hsound hfound (.schedule (.of_mark mark))
  | marker mint group place bump unused used entitlement derived found mark =>
    have hsame := Arena.Evolves.of_update hsound hfound (.refl _)
    have hmarker := (hsound.get?_update_of_get? hfound place).trans found
    exact hsame.trans (.of_update (hsound.update _ _) hmarker (.marker (.of_mark mark)))

end

section

variable {arena : Arena} (h : Writes l operation answer arena) (hsound : l.arena.Sound)
include h hsound

theorem Writes.sound : arena.Sound := by
  cases h with
  | nothing => exact hsound
  | opensVault _ _ _ creates => exact hsound.create creates
  | publishes _ _ _ creates => exact hsound.create creates
  | createsMarker _ _ _ _ _ _ creates => exact hsound.create creates
  | changesVault => exact hsound.update _ _
  | setsStatus => exact hsound.update _ _
  | redeems _ _ _ uses => exact uses.sound hsound

/-- What is not written stays, and what is written continues. -/
theorem Writes.evolves : l.arena.Evolves arena := by
  cases h with
  | nothing => exact .refl _
  | opensVault _ _ _ creates => exact .of_create hsound creates
  | publishes _ _ _ creates => exact .of_create hsound creates
  | createsMarker _ _ _ _ _ _ creates => exact .of_create hsound creates
  | changesVault _ v w _ found => exact .of_update hsound found (.vault v w)
  | setsStatus s found => exact .of_update hsound found (.schedule (.of_setActive s _))
  | redeems _ found _ uses => exact uses.evolves hsound found

end

/-! ## Runs -/

/-- A success happens on a ledger that the first one has become. -/
theorem evolves_of_mem_successes {x : LedgerSuccess} (hsound : l.arena.Sound)
    (hx : x ∈ l.successes operations) :
    x.before.arena.Sound ∧ l.arena.Evolves x.before.arena ∧
      ∃ m, x.before.perform x.operation = .ok (x.answer, m) := by
  induction operations generalizing l with
  | nil => exact absurd hx List.not_mem_nil
  | cons operation operations ih =>
    rw [successes] at hx
    cases hperform : l.perform operation with
    | error failure =>
      rw [hperform] at hx
      exact ih hsound hx
    | ok result =>
      obtain ⟨answer, m⟩ := result
      have hwrites := writes_perform hperform
      rw [hperform] at hx
      rcases List.mem_cons.1 hx with rfl | hlater
      · exact ⟨hsound, .refl _, m, hperform⟩
      · obtain ⟨hsound', hevolves, hsuccess⟩ := ih (hwrites.sound hsound) hlater
        exact ⟨hsound', (hwrites.evolves hsound).trans hevolves, hsuccess⟩

end Ledger

end Disbursement
