/-!
# Amounts

Amounts are unsigned 64-bit numbers. `Amount.add?` and `Amount.sub?` are exact: they give nothing
where the result would not fit. `Amount.add?_eq_some_iff` and `Amount.sub?_eq_some_iff` say so in
natural numbers.
-/

namespace Disbursement.Amount

/-- The sum, if it fits. -/
def add? (a b : UInt64) : Option UInt64 :=
  if a.toNat + b.toNat < UInt64.size then some (a + b) else none

/-- The difference, if it is not negative. -/
def sub? (a b : UInt64) : Option UInt64 :=
  if b ≤ a then some (a - b) else none

theorem add?_eq_some_iff {a b c : UInt64} : add? a b = some c ↔ a.toNat + b.toNat = c.toNat := by
  have hc := c.toNat_lt
  rw [add?]
  split
  next h =>
    rw [Option.some.injEq, ← UInt64.toNat_inj, UInt64.toNat_add, Nat.mod_eq_of_lt h]
  next h =>
    simp only [reduceCtorEq, false_iff]
    intro he
    exact h (he ▸ hc)

theorem sub?_eq_some_iff {a b c : UInt64} : sub? a b = some c ↔ a.toNat = b.toNat + c.toNat := by
  rw [sub?]
  split
  next h =>
    have hab := UInt64.le_iff_toNat_le.1 h
    rw [Option.some.injEq, ← UInt64.toNat_inj, UInt64.toNat_sub_of_le a b h]
    omega
  next h =>
    have hab : ¬b.toNat ≤ a.toNat := fun hle => h (UInt64.le_iff_toNat_le.2 hle)
    simp only [reduceCtorEq, false_iff]
    omega

end Disbursement.Amount
