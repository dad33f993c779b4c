/-!
# Checks

A sequence of checks is a chain of `Except` steps, of which the first that fails decides the error.
`ensure` is the step that tests a condition. `ensure_eq_ok_iff` and `bind_eq_ok_iff` take a chain
that succeeded apart into its conditions; `ensure_eq_error_iff` and `bind_eq_error_iff` find the
step of one that failed.
-/

namespace Disbursement

variable {ε α β : Type}

/-- Go on only if a condition holds. -/
def ensure (condition : Prop) [Decidable condition] (otherwise : ε) : Except ε Unit :=
  if condition then .ok () else .error otherwise

/-- The value that must be there. -/
def demand (value? : Option α) (otherwise : ε) : Except ε α :=
  match value? with
  | some value => .ok value
  | none => .error otherwise

@[simp] theorem ensure_eq_ok_iff {condition : Prop} [Decidable condition] {otherwise : ε}
    {u : Unit} : ensure condition otherwise = .ok u ↔ condition := by
  simp [ensure]

@[simp] theorem ensure_eq_error_iff {condition : Prop} [Decidable condition] {otherwise error : ε} :
    ensure condition otherwise = .error error ↔ ¬condition ∧ otherwise = error := by
  by_cases h : condition <;> simp [ensure, h]

@[simp] theorem demand_eq_ok_iff {value? : Option α} {otherwise : ε} {value : α} :
    demand value? otherwise = .ok value ↔ value? = some value := by
  cases value? <;> simp [demand]

@[simp] theorem mapError_eq_ok_iff {ε' : Type} {step : Except ε α} {wrap : ε → ε'} {value : α} :
    step.mapError wrap = .ok value ↔ step = .ok value := by
  cases step with
  | error e => exact ⟨nofun, nofun⟩
  | ok a =>
    constructor
    · rintro ⟨⟩
      rfl
    · rintro ⟨⟩
      rfl

theorem map_eq_ok_iff {step : Except ε α} {f : α → β} {result : β} :
    step.map f = .ok result ↔ ∃ value, step = .ok value ∧ f value = result := by
  cases step <;> simp [Except.map]

theorem map_eq_error_iff {step : Except ε α} {f : α → β} {error : ε} :
    step.map f = .error error ↔ step = .error error := by
  cases step <;> simp [Except.map]

@[simp] theorem pure_eq_ok_iff {value result : α} :
    (pure value : Except ε α) = .ok result ↔ value = result := by
  simp [pure, Except.pure]

theorem toOption_eq_some_iff {step : Except ε α} {value : α} :
    step.toOption = some value ↔ step = .ok value := by
  cases step <;> simp [Except.toOption]

theorem ok_bind {value : α} {next : α → Except ε β} : (Except.ok value >>= next) = next value :=
  rfl

theorem bind_eq_ok_iff {step : Except ε α} {next : α → Except ε β} {result : β} :
    (step >>= next) = .ok result ↔ ∃ value, step = .ok value ∧ next value = .ok result := by
  cases step <;> simp [bind, Except.bind]

theorem bind_eq_error_iff {step : Except ε α} {next : α → Except ε β} {error : ε} :
    (step >>= next) = .error error ↔
      step = .error error ∨ ∃ value, step = .ok value ∧ next value = .error error := by
  cases step <;> simp [bind, Except.bind]

end Disbursement
