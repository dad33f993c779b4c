import Disbursement.Proofs.Administration
import Disbursement.Proofs.Program.Steps

/-!
# The administration of the program

Given the accounts of a request, an instruction of the administration succeeds if the caller alone
may make the change and the changed record can be stored, and then it has stored it
(`Program.exists_perform_change_iff`, `Program.exists_perform_setScheduleStatus_iff`).
-/

namespace Disbursement.Program

variable {c d : Chain} {call : Call} {address caller : Address}

/-- What an account holds is one record. -/
theorem Loaded.eq_of_loadRecord {α : Type} [Record α] {x y : Loaded α}
    (haddress : x.address = y.address) (hx : (c.account x.address).loadRecord = .ok x.record)
    (hy : (c.account y.address).loadRecord = .ok y.record) : x = y := by
  obtain ⟨address, value⟩ := x
  obtain rfl : address = y.address := haddress
  obtain rfl : value = y.record := Except.ok.inj (hx.symm.trans hy)
  rfl

/-! ## Changes of a vault -/

/-- A change of a vault goes through if the caller alone may make it and the changed vault can be
stored. -/
theorem exists_perform_change_iff {change : VaultChange} {v : Vault}
    (h : VaultTaken c call caller ⟨address, v⟩) :
    (∃ out, perform c call change.instruction = .ok out ∧ out.chain = d) ↔
      ∃ w, v.Changes (Vault.onlySigner caller) change.instruction w ∧
        c.storeRecord address w = .ok d := by
  have htake := takeVaultChange_eq_ok_iff.2 h
  cases change with
  | setAdmins admins =>
    simp only [VaultChange.instruction, perform, setVault, htake, ok_bind, bind_eq_ok_iff,
      pure_eq_ok_iff, lift_refusal_eq_ok_iff, lift_entry_eq_ok_iff, requireOwner_eq_ok_iff,
      exists_const, Vault.changes_setVault_iff]
    constructor
    · rintro ⟨_, ⟨hcaller, w, hset, _, hstored, rfl⟩, rfl⟩
      exact ⟨w, ⟨hcaller, hset⟩, hstored⟩
    · rintro ⟨w, ⟨hcaller, hset⟩, hstored⟩
      exact ⟨_, ⟨hcaller, w, hset, _, hstored, rfl⟩, rfl⟩
  | propose candidate =>
    simp only [VaultChange.instruction, perform, transferOwnership, htake, ok_bind, bind_eq_ok_iff,
      pure_eq_ok_iff, lift_refusal_eq_ok_iff, lift_entry_eq_ok_iff, requireOwner_eq_ok_iff,
      exists_const, Vault.changes_transferOwnership_iff]
    constructor
    · rintro ⟨_, ⟨hcaller, w, hpropose, _, hstored, rfl⟩, rfl⟩
      exact ⟨w, ⟨hcaller, hpropose⟩, hstored⟩
    · rintro ⟨w, ⟨hcaller, hpropose⟩, hstored⟩
      exact ⟨_, ⟨hcaller, w, hpropose, _, hstored, rfl⟩, rfl⟩
  | accept =>
    simp only [VaultChange.instruction, perform, acceptOwnership, htake, ok_bind, bind_eq_ok_iff,
      pure_eq_ok_iff, lift_refusal_eq_ok_iff, lift_entry_eq_ok_iff, Prod.exists,
      Vault.changes_acceptOwnership_iff]
    constructor
    · rintro ⟨_, ⟨previous, w, haccept, _, hstored, rfl⟩, rfl⟩
      exact ⟨w, ⟨previous, haccept⟩, hstored⟩
    · rintro ⟨w, ⟨previous, haccept⟩, hstored⟩
      exact ⟨_, ⟨previous, w, haccept, _, hstored, rfl⟩, rfl⟩
  | cancel =>
    simp only [VaultChange.instruction, perform, cancelOwnershipTransfer, htake, ok_bind,
      bind_eq_ok_iff, pure_eq_ok_iff, lift_refusal_eq_ok_iff, lift_entry_eq_ok_iff,
      requireOwner_eq_ok_iff, Prod.exists, exists_const, Vault.changes_cancelOwnershipTransfer_iff]
    constructor
    · rintro ⟨_, ⟨hcaller, dropped, w, hcancel, _, hstored, rfl⟩, rfl⟩
      exact ⟨w, ⟨hcaller, dropped, hcancel⟩, hstored⟩
    · rintro ⟨w, ⟨hcaller, dropped, hcancel⟩, hstored⟩
      exact ⟨_, ⟨hcaller, dropped, w, hcancel, _, hstored, rfl⟩, rfl⟩

/-! ## The activity of a schedule -/

/-- The accounts of a change of activity. -/
structure StatusTaken (c : Chain) (call : Call) (admin : Address) (vault : Loaded Vault)
    (schedule : Loaded Schedule) : Prop where
  accounts : [admin, vault.address, schedule.address] <+: call.addresses
  signs : call.signs admin = true
  loadedVault : (c.account vault.address).loadRecord = .ok vault.record
  loaded : (c.account schedule.address).loadRecord = .ok schedule.record
  writes : call.writes schedule.address = true

/-- A schedule is opened or closed if it is where its event derives it and belongs to the vault, if
the caller is the owner or an admin, and if the schedule can be stored. -/
theorem exists_perform_setScheduleStatus_iff {isActive : Bool} {vault : Loaded Vault}
    {schedule : Loaded Schedule} (h : StatusTaken c call caller vault schedule) :
    (∃ out, perform c call (.setScheduleStatus isActive) = .ok out ∧ out.chain = d) ↔
      (Identity.schedule schedule.record.eventId).addressWith schedule.record.bump
          Address.program = some schedule.address ∧
        schedule.record.vault = vault.address ∧
        (caller = vault.record.owner ∨ caller ∈ vault.record.admins) ∧
        c.storeRecord schedule.address { schedule.record with isActive } = .ok d := by
  constructor
  · rintro ⟨out, hperform, rfl⟩
    obtain ⟨admin, vault', schedule', hset⟩ := of_setScheduleStatus hperform
    -- both lists stand at the start of the accounts, so the same accounts were taken
    have hsame := List.prefix_of_prefix_length_le hset.accounts h.accounts (Nat.le_refl 3)
    obtain ⟨rfl, hvault, hschedule⟩ : admin = caller ∧ vault'.address = vault.address ∧
        schedule'.address = schedule.address := by
      simpa using hsame.eq_of_length rfl
    obtain rfl := Loaded.eq_of_loadRecord hvault hset.loadedVault h.loadedVault
    obtain rfl := Loaded.eq_of_loadRecord hschedule hset.loaded h.loaded
    exact ⟨hset.seeds, hset.ofVault, hset.authority, hset.stored⟩
  · rintro ⟨hseeds, hof, hcaller, hstored⟩
    obtain ⟨rest, htakes⟩ := Takes.exists_iff.2 h.accounts
    obtain ⟨left, hadmin, htakes⟩ := Takes.cons_iff.1 htakes
    obtain ⟨left', hvault, hschedule⟩ := Takes.cons_iff.1 htakes
    simp only [perform, setScheduleStatus, run'_eq_ok_iff, run_bind_eq_ok_iff, run_pure_eq_ok_iff,
      nextSigner_eq_ok_iff, nextRecord_eq_ok_iff, bind_eq_ok_iff, pure_eq_ok_iff,
      lift_entry_eq_ok_iff, lift_refusal_eq_ok_iff, requireSeeds_eq_ok_iff,
      requireWritable_eq_ok_iff, requireVaultOf_eq_ok_iff, requireAdmin_eq_ok_iff, Prod.exists,
      Prod.mk.injEq, exists_const]
    exact ⟨_, ⟨caller, vault, schedule, ⟨rest, caller, left, ⟨hadmin, h.signs⟩, vault, left',
      ⟨hvault, h.loadedVault⟩, schedule, rest, ⟨hschedule, h.loaded⟩, ⟨rfl, rfl, rfl⟩, rfl⟩, hseeds,
      h.writes, hof, hcaller, _, hstored, rfl⟩, rfl⟩

end Disbursement.Program
