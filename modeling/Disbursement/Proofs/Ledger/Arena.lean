import Disbursement.Ledger.Arena
import Disbursement.Proofs.Claim.Settle
import Disbursement.Proofs.Redemption.Marker

/-!
# Records by address

An arena is a map from addresses to records in two parts, the slots and the list they point into. It
is `Sound` if the parts fit together; then creating and updating a record are what they should be
for a map: `get?_of_create` and `get?_update` say what is read afterwards, at the address and
everywhere else.

`Arena.Evolves` is what may become of an arena: every record stays where it is, and continues as
what it is. It is a preorder, and creating a record and updating one by a later version of it are
steps.
-/

namespace Disbursement

/-- The one record is the other at a later time. -/
inductive LedgerRecord.Continues : LedgerRecord → LedgerRecord → Prop where
  /-- A vault stays a vault. -/
  | vault (v w : Vault) : Continues (.vault v) (.vault w)
  | schedule {s t : Schedule} (continues : s.Continues t) : Continues (.schedule s) (.schedule t)
  | marker {m n : Marker} (continues : m.Continues n) : Continues (.marker m) (.marker n)

namespace LedgerRecord.Continues

theorem refl (record : LedgerRecord) : Continues record record := by
  cases record with
  | vault v => exact .vault v v
  | schedule s => exact .schedule (.refl s)
  | marker m => exact .marker (.refl m)

theorem trans {r s t : LedgerRecord} (h : Continues r s) (h' : Continues s t) : Continues r t := by
  cases h with
  | vault v w => cases h' with | vault _ u => exact .vault v u
  | schedule continues =>
    cases h' with | schedule continues' => exact .schedule (continues.trans continues')
  | marker continues =>
    cases h' with | marker continues' => exact .marker (continues.trans continues')

end LedgerRecord.Continues

namespace Arena

variable {arena created after : Arena} {address other : Address} {record found : LedgerRecord}

/-- The slots of the addresses are the places in the list, one for each address in use. -/
structure Sound (arena : Arena) : Prop where
  slot_lt : ∀ {address slot}, arena.slot? address = some slot → slot < arena.records.length
  slot_inj : ∀ {address other slot}, arena.slot? address = some slot →
    arena.slot? other = some slot → address = other
  exists_slot : ∀ {slot}, slot < arena.records.length → ∃ address, arena.slot? address = some slot

theorem sound_empty : Sound empty where
  slot_lt h := absurd h (by simp [empty])
  slot_inj h := absurd h (by simp [empty])
  exists_slot h := absurd h (Nat.not_lt_zero _)

/-! ## Creating a record -/

theorem create_eq_ok_iff : arena.create address record = .ok created ↔
    arena.slot? address = none ∧
      { slot? := fun other =>
          if other = address then some arena.records.length else arena.slot? other
        records := arena.records ++ [record] } = created := by
  simp only [create, bind_eq_ok_iff, ensure_eq_ok_iff, exists_const, pure_eq_ok_iff]

theorem Sound.create (h : arena.Sound) (hcreate : arena.create address record = .ok created) :
    created.Sound := by
  obtain ⟨hfree, rfl⟩ := create_eq_ok_iff.1 hcreate
  -- the slots before are below the new one, so they are not mistaken for it
  have hold {other slot} (hslot : arena.slot? other = some slot) : slot ≠ arena.records.length :=
    Nat.ne_of_lt (h.slot_lt hslot)
  refine ⟨fun {a slot} ha => ?_, fun {a b slot} ha hb => ?_, fun {slot} hslot => ?_⟩
  · rw [List.length_append, List.length_singleton]
    dsimp only at ha
    split at ha
    · obtain rfl := Option.some.inj ha
      exact Nat.lt_succ_self _
    · exact Nat.lt_succ_of_lt (h.slot_lt ha)
  · dsimp only at ha hb
    split at ha <;> split at hb
    next haddress hother => exact haddress.trans hother.symm
    next => exact absurd (Option.some.inj ha).symm (hold hb)
    next => exact absurd (Option.some.inj hb).symm (hold ha)
    next => exact h.slot_inj ha hb
  · rw [List.length_append, List.length_singleton] at hslot
    by_cases hnew : slot = arena.records.length
    · exact ⟨address, by rw [hnew]; exact if_pos rfl⟩
    · have hlt : slot < arena.records.length := by omega
      obtain ⟨other, hother⟩ := h.exists_slot hlt
      have hne : other ≠ address := by
        rintro rfl
        exact absurd (hfree.symm.trans hother) (by simp)
      exact ⟨other, (if_neg hne).trans hother⟩

/-- A new record is found at its address, and every other one where it was. -/
theorem Sound.get?_of_create (h : arena.Sound) (hcreate : arena.create address record = .ok created)
    (other : Address) :
    created.get? other = if other = address then some record else arena.get? other := by
  obtain ⟨-, rfl⟩ := create_eq_ok_iff.1 hcreate
  by_cases hother : other = address
  · simp [get?, hother]
  · simp only [get?, if_neg hother]
    cases hslot : arena.slot? other with
    | none => rfl
    | some slot => exact List.getElem?_append_left (h.slot_lt hslot)

/-- What is found afterwards was found before, or it is the new record. -/
theorem Sound.get?_or_of_create (h : arena.Sound)
    (hcreate : arena.create address record = .ok created)
    (hfound : created.get? other = some found) :
    arena.get? other = some found ∨ other = address ∧ record = found := by
  rw [h.get?_of_create hcreate] at hfound
  by_cases hother : other = address
  · rw [if_pos hother] at hfound
    exact .inr ⟨hother, Option.some.inj hfound⟩
  · rw [if_neg hother] at hfound
    exact .inl hfound

theorem Sound.get?_before_create (h : arena.Sound)
    (hcreate : arena.create address record = .ok created) (hfound : created.get? other = some found)
    (hne : record ≠ found) : arena.get? other = some found := by
  rcases h.get?_or_of_create hcreate hfound with hbefore | ⟨-, hnew⟩
  · exact hbefore
  · exact absurd hnew hne

/-! ## Updating a record -/

@[simp] theorem slot?_update (arena : Arena) (address : Address) (record : LedgerRecord) :
    (arena.update address record).slot? = arena.slot? := by
  unfold update
  split <;> rfl

@[simp] theorem length_update (arena : Arena) (address : Address) (record : LedgerRecord) :
    (arena.update address record).records.length = arena.records.length := by
  unfold update
  split <;> simp

theorem Sound.update (h : arena.Sound) (address : Address) (record : LedgerRecord) :
    (arena.update address record).Sound where
  slot_lt hslot := by
    rw [slot?_update] at hslot
    rw [length_update]
    exact h.slot_lt hslot
  slot_inj hslot hslot' := by
    rw [slot?_update] at hslot hslot'
    exact h.slot_inj hslot hslot'
  exists_slot hslot := by
    rw [length_update] at hslot
    rw [slot?_update]
    exact h.exists_slot hslot

/-- An updated record is found at its address if there was one, and every other one as it was. -/
theorem Sound.get?_update (h : arena.Sound) (address other : Address) (record : LedgerRecord) :
    (arena.update address record).get? other =
      if other = address then (arena.get? address).map fun _ => record else arena.get? other := by
  rw [get?, slot?_update, Arena.update]
  cases hslot : arena.slot? address with
  | none =>
    by_cases hother : other = address
    · simp [get?, hother, hslot]
    · rw [if_neg hother, get?]
  | some slot =>
    have hlt := h.slot_lt hslot
    by_cases hother : other = address
    · simp [get?, hother, hslot, hlt]
    · rw [if_neg hother, get?]
      cases hslot' : arena.slot? other with
      | none => rfl
      | some slot' =>
        have hne : slot ≠ slot' := by
          rintro rfl
          exact hother (h.slot_inj hslot' hslot)
        exact List.getElem?_set_ne hne

theorem Sound.get?_or_of_update (h : arena.Sound)
    (hfound : (arena.update address record).get? other = some found) :
    arena.get? other = some found ∨ other = address ∧ record = found := by
  rw [h.get?_update] at hfound
  by_cases hother : other = address
  · rw [if_pos hother] at hfound
    obtain ⟨_, -, hrecord⟩ := Option.map_eq_some_iff.1 hfound
    exact .inr ⟨hother, hrecord⟩
  · rw [if_neg hother] at hfound
    exact .inl hfound

theorem Sound.get?_before_update (h : arena.Sound)
    (hfound : (arena.update address record).get? other = some found) (hne : record ≠ found) :
    arena.get? other = some found := by
  rcases h.get?_or_of_update hfound with hbefore | ⟨-, hnew⟩
  · exact hbefore
  · exact absurd hnew hne

theorem get?_update_self (hfound : arena.get? address = some found) :
    (arena.update address record).get? address = some record := by
  obtain ⟨slot, hslot, hrecord⟩ := Option.bind_eq_some_iff.1 hfound
  obtain ⟨hlt, -⟩ := List.getElem?_eq_some_iff.1 hrecord
  rw [get?, slot?_update, hslot, Option.bind_some, Arena.update, hslot]
  exact List.getElem?_set_self hlt

/-- Writing back what was read changes nothing that can be read. -/
theorem Sound.get?_update_of_get? (h : arena.Sound) (hfound : arena.get? address = some record)
    (other : Address) : (arena.update address record).get? other = arena.get? other := by
  rw [h.get?_update]
  by_cases hother : other = address
  · rw [if_pos hother, hother, hfound]
    rfl
  · rw [if_neg hother]

/-! ## What may become of an arena -/

/-- Every record continues at its address. -/
structure Evolves (before after : Arena) : Prop where
  continues : ∀ {address record}, before.get? address = some record →
    ∃ later, after.get? address = some later ∧ record.Continues later

namespace Evolves

theorem refl (arena : Arena) : Evolves arena arena where
  continues {_ record} h := ⟨record, h, .refl record⟩

theorem trans {later : Arena} (h : Evolves arena after) (h' : Evolves after later) :
    Evolves arena later where
  continues hget := by
    obtain ⟨record', hget', hcontinues⟩ := h.continues hget
    obtain ⟨record'', hget'', hcontinues'⟩ := h'.continues hget'
    exact ⟨record'', hget'', hcontinues.trans hcontinues'⟩

/-- What is found twice is one record at two times. -/
theorem continues_of_get? {later : LedgerRecord} (h : Evolves arena after)
    (hget : arena.get? address = some record) (hlater : after.get? address = some later) :
    record.Continues later := by
  obtain ⟨later', hlater', hcontinues⟩ := h.continues hget
  obtain rfl : later = later' := Option.some.inj (hlater.symm.trans hlater')
  exact hcontinues

theorem schedule {s t : Schedule} (h : Evolves arena after)
    (hget : arena.get? address = some (.schedule s))
    (hlater : after.get? address = some (.schedule t)) : s.Continues t := by
  cases h.continues_of_get? hget hlater with
  | schedule continues => exact continues

theorem marker {m n : Marker} (h : Evolves arena after)
    (hget : arena.get? address = some (.marker m))
    (hlater : after.get? address = some (.marker n)) : m.Continues n := by
  cases h.continues_of_get? hget hlater with
  | marker continues => exact continues

theorem of_create (h : arena.Sound) (hcreate : arena.create address record = .ok created) :
    Evolves arena created where
  continues {other found} hfound := by
    obtain ⟨hfree, -⟩ := create_eq_ok_iff.1 hcreate
    have hne : other ≠ address := by
      rintro rfl
      rw [get?, hfree] at hfound
      exact absurd hfound (by simp)
    exact ⟨found, by rw [h.get?_of_create hcreate, if_neg hne, hfound], .refl found⟩

theorem of_update (h : arena.Sound) (hfound : arena.get? address = some found)
    (hcontinues : found.Continues record) : Evolves arena (arena.update address record) where
  continues {other found'} hfound' := by
    rw [h.get?_update]
    by_cases hother : other = address
    · rw [hother, hfound] at hfound'
      obtain rfl := Option.some.inj hfound'
      rw [if_pos hother, hfound]
      exact ⟨record, rfl, hcontinues⟩
    · rw [if_neg hother]
      exact ⟨found', hfound', .refl found'⟩

end Evolves

end Arena

end Disbursement
