import Disbursement.Redemption.Marker

/-!
# One claim per marker

`Marker.Continues` is what may become of a marker: its flag may be set, and nothing else changes.
-/

namespace Disbursement.Marker

variable {m n k : Marker} {i : UInt16}

theorem mark_eq_ok_iff :
    m.mark i = .ok n ↔ m.index = i ∧ m.isRedeemed = false ∧ { m with isRedeemed := true } = n := by
  simp only [mark, bind_eq_ok_iff, ensure_eq_ok_iff, exists_const, pure_eq_ok_iff]

theorem redeemed?_eq_ok_iff {redeemed : Bool} :
    m.redeemed? i = .ok redeemed ↔ m.index = i ∧ m.isRedeemed = redeemed := by
  simp only [redeemed?, bind_eq_ok_iff, ensure_eq_ok_iff, exists_const, pure_eq_ok_iff]

theorem mark_eq_alreadyRedeemed (h : m.index = i) (hset : m.isRedeemed = true) :
    m.mark i = .error .alreadyRedeemed := by
  simp [mark, ensure, h, hset, bind, Except.bind]

theorem isRedeemed_of_mark (h : m.mark i = .ok n) : n.isRedeemed = true := by
  obtain ⟨-, -, rfl⟩ := mark_eq_ok_iff.1 h
  rfl

/-- A redeemed marker is not marked again. -/
theorem mark_ne_ok (h : m.isRedeemed = true) : m.mark i ≠ .ok n := by
  intro hmark
  obtain ⟨-, hfree, -⟩ := mark_eq_ok_iff.1 hmark
  exact absurd (h.symm.trans hfree) (by decide)

/-- The one marker is the other at a later time. -/
structure Continues (earlier later : Marker) : Prop where
  eq_with : later = { earlier with isRedeemed := later.isRedeemed }
  redeemed : earlier.isRedeemed = true → later.isRedeemed = true

namespace Continues

theorem refl (m : Marker) : Continues m m where
  eq_with := rfl
  redeemed h := h

theorem trans (h : Continues m n) (h' : Continues n k) : Continues m k where
  eq_with := by
    rw [h'.eq_with, h.eq_with]
  redeemed hm := h'.redeemed (h.redeemed hm)

theorem redeem (m : Marker) : Continues m { m with isRedeemed := true } where
  eq_with := rfl
  redeemed _ := rfl

theorem of_mark (h : m.mark i = .ok n) : Continues m n := by
  obtain ⟨-, -, rfl⟩ := mark_eq_ok_iff.1 h
  exact .redeem m

end Continues

end Disbursement.Marker
