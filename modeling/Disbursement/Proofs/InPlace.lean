import Disbursement.Check

/-!
# Computations in place

A computation may write something where it stands and be refused afterwards. What was written before
the refusal is then still there: that a refusal leaves nothing behind has to be shown of each
computation.

* `InPlace` is such a computation. `InPlace.start` is what it comes back with and what it leaves.
* `InPlace.Atomic`: it leaves what was computed, and after a failure what it found. Checks come
  first (`Atomic.check`), also in a loop (`forIn_check`), and after the last write nothing can fail.
-/

namespace Disbursement

/-- A computation that writes a value where it stands. What was written before a failure stays
written. -/
abbrev InPlace (σ ε α : Type) := ExceptT ε (StateM σ) α

namespace InPlace

variable {σ ε α β : Type} {s : σ}

/-- The result, and what is left. -/
def start (f : InPlace σ ε α) (s : σ) : Except ε α × σ :=
  f.run.run s

theorem start_bind {f : InPlace σ ε α} {next : α → InPlace σ ε β} :
    (f >>= next).start s = match f.start s with
      | (.ok value, left) => (next value).start left
      | (.error failure, left) => (.error failure, left) := by
  show (ExceptT.bindCont next (f.start s).1 (f.start s).2 : Except ε β × σ) = _
  rcases f.start s with ⟨_ | _, left⟩ <;> rfl

/-- A check writes nothing. -/
theorem start_check (test : Except ε α) (next : α → InPlace σ ε β) (s : σ) :
    (liftM test >>= next : InPlace σ ε β).start s = match test with
      | .ok value => (next value).start s
      | .error failure => (.error failure, s) := by
  cases test <;> rfl

theorem start_map (f : InPlace σ ε α) (result : α → β) (s : σ) :
    (f >>= fun value => pure (result value) : InPlace σ ε β).start s =
      ((f.start s).1.map result, (f.start s).2) := by
  rw [start_bind]
  rcases f.start s with ⟨_ | _, left⟩ <;> rfl

/-- A loop of checks is one check. -/
theorem forIn_check (test : α → Except ε Unit) (values : List α) :
    (forIn values PUnit.unit fun value _ => do
      (liftM (test value) : InPlace σ ε Unit)
      pure (ForInStep.yield PUnit.unit)) =
    liftM (forIn values PUnit.unit fun value _ => do
      test value
      pure (ForInStep.yield PUnit.unit) : Except ε PUnit) := by
  induction values with
  | nil => rfl
  | cons value values ih =>
    rw [List.forIn_cons, List.forIn_cons]
    cases htest : test value with
    | error failure => rfl
    | ok => exact ih

/-- What is left is what was computed, and after a failure what was there. -/
def Atomic (f : InPlace σ ε α) (s : σ) (computed : Except ε (α × σ)) : Prop :=
  f.start s = match computed with
    | .ok (value, left) => (.ok value, left)
    | .error failure => (.error failure, s)

namespace Atomic

variable {f : InPlace σ ε α} {computed : Except ε (α × σ)}

theorem check {test : Except ε α} {next : α → InPlace σ ε β}
    {computed : α → Except ε (β × σ)} (h : ∀ value, (next value).Atomic s (computed value)) :
    Atomic (liftM test >>= next) s (test >>= computed) := by
  cases test with
  | error failure => rfl
  | ok value => exact h value

theorem map (h : f.Atomic s computed) (result : α → β) :
    Atomic (f >>= fun value => pure (result value)) s
      (computed.map fun (value, left) => (result value, left)) := by
  unfold Atomic at h ⊢
  rw [start_map, h]
  cases computed <;> rfl

/-- A failure leaves what was there. -/
theorem left_of_error {failure : ε} (h : f.Atomic s computed)
    (hfailed : (f.start s).1 = .error failure) : (f.start s).2 = s := by
  rw [h] at hfailed ⊢
  cases computed with
  | error => rfl
  | ok result => cases hfailed

end Atomic

end InPlace

end Disbursement
