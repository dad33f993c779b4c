import Disbursement.Proofs.Address.Identity
import Disbursement.Proofs.Administration
import Disbursement.Proofs.Ledger.Accounting
import Disbursement.Proofs.Schedule

/-!
# The administration of a ledger

* `Ledger.perform_change_eq_ok_iff` and `Ledger.perform_setScheduleStatus_eq_ok_iff` say when a
  request to the administration succeeds, and what it writes.
* `Ledger.Reachable` are the ledgers that operations make of a new one. Their records fit
  (`Ledger.Reachable.fitting`): the admins of a vault are few and distinct, and a schedule is where
  its event derives it, with the bits that its leaves need.
-/

namespace Disbursement

/-! ## Records that fit -/

/-- The record can be kept at this address, in an account of the length that is reserved for it. -/
def LedgerRecord.Fits (address : Address) : LedgerRecord → Prop
  | .vault v => v.admins.length ≤ Vault.maxAdmins ∧ v.admins.Nodup
  | .schedule s =>
    (Identity.schedule s.eventId).addressWith s.bump Address.program = some address ∧
      s.redemptions.size =
        RedemptionBitmap.byteLength (Schedule.trackedLeavesOf s.kind s.userCount)
  | .marker _ => True

/-- The schedule remains at its address, with as many bits. -/
theorem LedgerRecord.Fits.of_continues {address : Address} {s t : Schedule}
    (h : Fits address (.schedule s)) (hcontinues : s.Continues t) : Fits address (.schedule t) := by
  obtain ⟨hseeds, hsize⟩ := h
  rw [Fits, hcontinues.redemptions.size_eq, hsize, hcontinues.eq_with]
  exact ⟨hseeds, rfl⟩

namespace Arena

variable {arena created : Arena} {address : Address} {record : LedgerRecord}

/-- The parts of the arena fit together, and the records fit their addresses. -/
structure Fitting (arena : Arena) : Prop where
  sound : arena.Sound
  fits : ∀ {address record}, arena.get? address = some record → record.Fits address

theorem fitting_empty : Fitting empty where
  sound := sound_empty
  fits h := absurd h (by simp [get?, empty])

namespace Fitting

variable (h : arena.Fitting)
include h

theorem create (hcreate : arena.create address record = .ok created) (hfits : record.Fits address) :
    created.Fitting where
  sound := h.sound.create hcreate
  fits hfound := by
    rcases h.sound.get?_or_of_create hcreate hfound with hbefore | ⟨rfl, rfl⟩
    · exact h.fits hbefore
    · exact hfits

theorem update (hfits : record.Fits address) : (arena.update address record).Fitting where
  sound := h.sound.update address record
  fits hfound := by
    rcases h.sound.get?_or_of_update hfound with hbefore | ⟨rfl, rfl⟩
    · exact h.fits hbefore
    · exact hfits

end Fitting

end Arena

/-! ## Requests -/

namespace Ledger

variable {l m : Ledger} {operation : LedgerOperation} {operations : List LedgerOperation}
  {answer : LedgerAnswer} {caller address : Address}

/-- A change of a vault succeeds if the caller alone may make it, and writes the changed vault. -/
theorem perform_change_eq_ok_iff {change : VaultChange} :
    l.perform (change.operation caller address) = .ok (answer, m) ↔
      answer = .done ∧ ∃ v w, l.arena.get? address = some (.vault v) ∧
        v.Changes (Vault.onlySigner caller) change.instruction w ∧
        l.update address (.vault w) = m := by
  cases change with
  | setAdmins admins =>
    simp only [VaultChange.operation, VaultChange.instruction, perform, setVault, bind_eq_ok_iff,
      pure_eq_ok_iff, Prod.mk.injEq, Program.lift_refusal_eq_ok_iff, vault_eq_ok_iff,
      Program.requireOwner_eq_ok_iff, exists_const, Vault.changes_setVault_iff]
    constructor
    · rintro ⟨_, ⟨v, hfound, hcaller, w, hset, rfl⟩, rfl, rfl⟩
      exact ⟨rfl, v, w, hfound, ⟨hcaller, hset⟩, rfl⟩
    · rintro ⟨rfl, v, w, hfound, ⟨hcaller, hset⟩, rfl⟩
      exact ⟨_, ⟨v, hfound, hcaller, w, hset, rfl⟩, rfl, rfl⟩
  | propose candidate =>
    simp only [VaultChange.operation, VaultChange.instruction, perform, transferOwnership,
      bind_eq_ok_iff, pure_eq_ok_iff, Prod.mk.injEq, Program.lift_refusal_eq_ok_iff,
      vault_eq_ok_iff, Program.requireOwner_eq_ok_iff, exists_const,
      Vault.changes_transferOwnership_iff]
    constructor
    · rintro ⟨_, ⟨v, hfound, hcaller, w, hpropose, rfl⟩, rfl, rfl⟩
      exact ⟨rfl, v, w, hfound, ⟨hcaller, hpropose⟩, rfl⟩
    · rintro ⟨rfl, v, w, hfound, ⟨hcaller, hpropose⟩, rfl⟩
      exact ⟨_, ⟨v, hfound, hcaller, w, hpropose, rfl⟩, rfl, rfl⟩
  | accept =>
    simp only [VaultChange.operation, VaultChange.instruction, perform, acceptOwnership,
      bind_eq_ok_iff, pure_eq_ok_iff, Prod.mk.injEq, Program.lift_refusal_eq_ok_iff,
      vault_eq_ok_iff, Prod.exists, Vault.changes_acceptOwnership_iff]
    constructor
    · rintro ⟨_, ⟨v, hfound, previous, w, haccept, rfl⟩, rfl, rfl⟩
      exact ⟨rfl, v, w, hfound, ⟨previous, haccept⟩, rfl⟩
    · rintro ⟨rfl, v, w, hfound, ⟨previous, haccept⟩, rfl⟩
      exact ⟨_, ⟨v, hfound, previous, w, haccept, rfl⟩, rfl, rfl⟩
  | cancel =>
    simp only [VaultChange.operation, VaultChange.instruction, perform, cancelOwnershipTransfer,
      bind_eq_ok_iff, pure_eq_ok_iff, Prod.mk.injEq, Program.lift_refusal_eq_ok_iff,
      vault_eq_ok_iff, Program.requireOwner_eq_ok_iff, Prod.exists, exists_const,
      Vault.changes_cancelOwnershipTransfer_iff]
    constructor
    · rintro ⟨_, ⟨v, hfound, hcaller, dropped, w, hcancel, rfl⟩, rfl, rfl⟩
      exact ⟨rfl, v, w, hfound, ⟨hcaller, dropped, hcancel⟩, rfl⟩
    · rintro ⟨rfl, v, w, hfound, ⟨hcaller, dropped, hcancel⟩, rfl⟩
      exact ⟨_, ⟨v, hfound, hcaller, dropped, w, hcancel, rfl⟩, rfl, rfl⟩

/-- A schedule is opened or closed for the owner and the admins of its vault. -/
theorem perform_setScheduleStatus_eq_ok_iff {vault : Address} {isActive : Bool} :
    l.perform (.setScheduleStatus caller vault address isActive) = .ok (answer, m) ↔
      answer = .done ∧ ∃ v s, l.arena.get? vault = some (.vault v) ∧
        (caller = v.owner ∨ caller ∈ v.admins) ∧
        l.arena.get? address = some (.schedule s) ∧ s.vault = vault ∧
        l.update address (.schedule { s with isActive }) = m := by
  simp only [perform, setScheduleStatus, bind_eq_ok_iff, pure_eq_ok_iff, Prod.mk.injEq,
    Program.lift_refusal_eq_ok_iff, vault_eq_ok_iff, schedule_eq_ok_iff, ensure_eq_ok_iff,
    Program.requireAdmin_eq_ok_iff, exists_const]
  constructor
  · rintro ⟨_, ⟨v, hvault, hcaller, s, hfound, hof, rfl⟩, rfl, rfl⟩
    exact ⟨rfl, v, s, hvault, hcaller, hfound, hof, rfl⟩
  · rintro ⟨rfl, v, s, hvault, hcaller, hfound, hof, rfl⟩
    exact ⟨_, ⟨v, hvault, hcaller, s, hfound, hof, rfl⟩, rfl, rfl⟩

/-! ## New records -/

/-- A vault is opened where its name derives it, with the bumps of the two searches. -/
theorem of_createVault {owner : Address} {name : String}
    (h : l.perform (.createVault owner name) = .ok (answer, m)) :
    ∃ address bump signer nonce arena,
      (Identity.vault (vaultPath name)).find Address.program = some (address, bump) ∧
      (Identity.signer address).find Address.program = some (signer, nonce) ∧
      l.arena.create address (.vault (Vault.create owner bump nonce)) = .ok arena ∧
      { l with arena } = m := by
  simp only [perform, createVault, addressOf, create_eq_ok_iff, bind_eq_ok_iff, pure_eq_ok_iff,
    Prod.mk.injEq, Program.lift_refusal_eq_ok_iff, demand_eq_ok_iff, Prod.exists] at h
  obtain ⟨_, _, ⟨address, bump, hfind, signer, nonce, hsigner, _, ⟨arena, hcreate, rfl⟩, rfl, rfl⟩,
    rfl, rfl⟩ := h
  exact ⟨address, bump, signer, nonce, arena, hfind, hsigner, hcreate, rfl⟩

/-- A schedule is published where its event derives it, with the bump of the search. -/
theorem of_createSchedule {vault : Address} {kind : ScheduleKind} {terms : ScheduleTerms}
    (h : l.perform (.createSchedule caller vault kind terms) = .ok (answer, m)) :
    ∃ address bump s arena,
      (Identity.schedule terms.eventId).find Address.program = some (address, bump) ∧
      Schedule.create vault bump l.now kind terms = .ok s ∧
      l.arena.create address (.schedule s) = .ok arena ∧ { l with arena } = m := by
  simp only [perform, createSchedule, addressOf, create_eq_ok_iff, bind_eq_ok_iff, pure_eq_ok_iff,
    Prod.mk.injEq, Program.lift_refusal_eq_ok_iff, demand_eq_ok_iff, Prod.exists] at h
  obtain ⟨_, _, ⟨v, -, ⟨⟩, -, address, bump, hfind, s, hnew, _, ⟨arena, hcreate, rfl⟩, rfl, rfl⟩,
    rfl, rfl⟩ := h
  exact ⟨address, bump, s, arena, hfind, hnew, hcreate, rfl⟩

/-! ## What fits stays fitting -/

/-- Using up a claim slot changes neither the place of a schedule nor the number of its bits. -/
theorem UsesUp.fitting {before after : Arena} {r : RedeemRequest} {s : Schedule}
    (h : UsesUp before address r s after) (hfitting : before.Fitting)
    (hfound : before.get? address = some (.schedule s)) : after.Fitting := by
  have hfits := hfitting.fits hfound
  cases h with
  | bit bits mode mark => exact hfitting.update (hfits.of_continues (.of_mark mark))
  | marker mint group place bump unused used entitlement derived found mark =>
    exact (hfitting.update hfits).update trivial

/-- The operations that make no vault and no schedule and leave the authority over vaults alone. -/
theorem Writes.fitting {arena : Arena} (h : Writes l operation answer arena)
    (hfitting : l.arena.Fitting)
    (hvault : ∀ owner name, operation ≠ .createVault owner name)
    (hschedule : ∀ caller vault kind terms, operation ≠ .createSchedule caller vault kind terms)
    (hchanged : operation.vaultChanged? = none) : arena.Fitting := by
  cases h with
  | nothing => exact hfitting
  | opensVault => exact absurd rfl (hvault _ _)
  | publishes => exact absurd rfl (hschedule _ _ _ _)
  | changesVault _ _ _ target => exact absurd (target.symm.trans hchanged) (by simp)
  | setsStatus s found =>
    exact hfitting.update ((hfitting.fits found).of_continues (.of_setActive s _))
  | createsMarker _ _ _ _ _ _ creates => exact hfitting.create creates trivial
  | redeems s found _ uses => exact uses.fitting hfitting found

/-- Admins that somebody set are few and distinct. -/
theorem fitting_change (change : VaultChange) (hfitting : l.arena.Fitting)
    (h : l.perform (change.operation caller address) = .ok (answer, m)) : m.arena.Fitting := by
  obtain ⟨-, v, w, hfound, hchanges, rfl⟩ := perform_change_eq_ok_iff.1 h
  obtain ⟨hfew, hdistinct⟩ := hfitting.fits hfound
  exact hfitting.update (hchanges.admins_bounded hfew hdistinct)

theorem fitting_perform (hfitting : l.arena.Fitting)
    (h : l.perform operation = .ok (answer, m)) : m.arena.Fitting := by
  have hwrites := writes_perform h
  cases operation with
  | createVault owner name =>
    obtain ⟨address, bump, signer, nonce, arena, -, -, hcreate, rfl⟩ := of_createVault h
    exact hfitting.create hcreate ⟨Nat.zero_le _, .nil⟩
  | createSchedule caller vault kind terms =>
    obtain ⟨address, bump, s, arena, hfind, hnew, hcreate, rfl⟩ := of_createSchedule h
    refine hfitting.create hcreate ⟨?_, ?_⟩
    · obtain ⟨-, rfl⟩ := Schedule.create_eq_ok_iff.1 hnew
      exact Identity.addressWith_of_find hfind
    · rw [(Schedule.formed_of_create hnew).size_eq, Schedule.byteLength_trackedLeavesOf]
  | setVault caller vault admins => exact fitting_change (.setAdmins admins) hfitting h
  | transferOwnership caller vault newOwner => exact fitting_change (.propose newOwner) hfitting h
  | acceptOwnership caller vault => exact fitting_change .accept hfitting h
  | cancelOwnershipTransfer caller vault => exact fitting_change .cancel hfitting h
  | setNow | fund | mintNft | transferNft | setScheduleStatus | withdraw | initRedeemIndex
  | redeem =>
    exact hwrites.fitting hfitting (by simp) (by simp) rfl

/-! ## Runs from a new ledger -/

/-- The ledger comes from operations on a new one. -/
def Reachable (l : Ledger) : Prop :=
  ∃ operations, new.after operations = l

theorem after_append (l : Ledger) (first second : List LedgerOperation) :
    l.after (first ++ second) = (l.after first).after second :=
  List.foldl_append

theorem Reachable.after (h : l.Reachable) (operations : List LedgerOperation) :
    (l.after operations).Reachable := by
  obtain ⟨earlier, rfl⟩ := h
  exact ⟨earlier ++ operations, after_append _ _ _⟩

theorem fitting_after (h : l.arena.Fitting) : (l.after operations).arena.Fitting := by
  induction operations generalizing l with
  | nil => exact h
  | cons operation operations ih =>
    refine ih (l := (l.transact operation).2) ?_
    rw [transact_eq_perform]
    cases hperform : l.perform operation with
    | error failure => exact h
    | ok result => exact fitting_perform h hperform

theorem Reachable.fitting (h : l.Reachable) : l.arena.Fitting := by
  obtain ⟨operations, rfl⟩ := h
  exact fitting_after Arena.fitting_empty

end Ledger

end Disbursement
