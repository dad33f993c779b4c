import Disbursement.Check

/-!
# Which check decides

A sequence of checks goes through if every condition it tests holds, and otherwise refuses for the
first of them that fails. `Decides` says that of a sequence and the list of its conditions, in their
order; it is put together from the single checks (`decides_ensure`, `decides_demand`) along the
sequence (`Decides.bind`).
-/

namespace Disbursement

variable {ε α β : Type}

theorem bind_eq_of_ok {step : Except ε α} {next : α → Except ε β} {a : α} (h : step = .ok a) :
    (step >>= next) = next a := by
  rw [h, ok_bind]

/-- A loop of checks goes through if and only if each of them does. -/
theorem forIn_eq_ok_iff {values : List α} {test : α → Except ε Unit} {u : PUnit} :
    (forIn values PUnit.unit fun value _ => do
      test value
      pure (ForInStep.yield PUnit.unit)) = Except.ok u ↔
      ∀ value ∈ values, test value = .ok () := by
  induction values with
  | nil => simp
  | cons value values ih =>
    rw [List.forIn_cons, List.forall_mem_cons, ← ih]
    cases test value with
    | error error => simp [bind, Except.bind]
    | ok => simp [bind, Except.bind, pure, Except.pure]

/-- What a check tests, and how it refuses. -/
structure Condition (ε : Type) where
  holds : Prop
  /-- The error if it does not hold. -/
  otherwise : ε

/-- The first condition of a list that fails has this error. -/
inductive FirstFailing (error : ε) : List (Condition ε) → Prop where
  | here {c : Condition ε} {cs : List (Condition ε)} (fails : ¬c.holds)
      (refuses : c.otherwise = error) : FirstFailing error (c :: cs)
  | later {c : Condition ε} {cs : List (Condition ε)} (holds : c.holds)
      (rest : FirstFailing error cs) : FirstFailing error (c :: cs)

namespace FirstFailing

variable {error other : ε} {c : Condition ε} {cs ds : List (Condition ε)}

@[simp] theorem not_nil : ¬FirstFailing error ([] : List (Condition ε)) := by
  intro h
  cases h

@[simp] theorem cons_iff : FirstFailing error (c :: cs) ↔
    ¬c.holds ∧ c.otherwise = error ∨ c.holds ∧ FirstFailing error cs := by
  constructor
  · intro h
    cases h with
    | here fails refuses => exact .inl ⟨fails, refuses⟩
    | later holds rest => exact .inr ⟨holds, rest⟩
  · rintro (⟨fails, refuses⟩ | ⟨holds, rest⟩)
    · exact .here fails refuses
    · exact .later holds rest

/-- A condition behind others decides only if all of those hold. -/
theorem append_iff : FirstFailing error (cs ++ ds) ↔
    FirstFailing error cs ∨ (∀ c ∈ cs, c.holds) ∧ FirstFailing error ds := by
  induction cs with
  | nil => simp
  | cons c cs ih =>
    by_cases hc : c.holds
    · simp [ih, hc]
    · simp [hc]

end FirstFailing

/-- These conditions, in this order, are what a step tests. -/
structure Decides (step : Except ε α) (conditions : List (Condition ε)) : Prop where
  ok_iff : (∃ value, step = .ok value) ↔ ∀ c ∈ conditions, c.holds
  error_iff : ∀ error, step = .error error ↔ FirstFailing error conditions

theorem decides_pure (value : α) : Decides (pure value : Except ε α) [] where
  ok_iff := by simp [pure, Except.pure]
  error_iff error := by simp [pure, Except.pure]

/-- The condition of a test may be said in other words than those it is tested in. -/
theorem decides_ensure {p q : Prop} [Decidable p] (h : p ↔ q) (otherwise : ε) :
    Decides (ensure p otherwise) [⟨q, otherwise⟩] where
  ok_iff := by simp [h]
  error_iff error := by simp [h]

theorem decides_demand {value? : Option α} {q : Prop} (h : (∃ value, value? = some value) ↔ q)
    (otherwise : ε) : Decides (demand value? otherwise) [⟨q, otherwise⟩] where
  ok_iff := by simp [h]
  error_iff error := by
    rw [FirstFailing.cons_iff, ← h]
    cases value? <;> simp [demand]

/-- Every failure of the step is reported by the same error. -/
theorem decides_mapError {ε' : Type} {step : Except ε' α} {q : Prop}
    (h : (∃ value, step = .ok value) ↔ q) (otherwise : ε) :
    Decides (step.mapError fun _ => otherwise) [⟨q, otherwise⟩] where
  ok_iff := by simp [h]
  error_iff error := by
    rw [FirstFailing.cons_iff, ← h]
    cases step with
    | error refused =>
      show Except.error otherwise = Except.error error ↔ _
      simp
    | ok value =>
      show Except.ok value = Except.error error ↔ _
      simp

namespace Decides

variable {step : Except ε α} {next : α → Except ε β} {cs ds : List (Condition ε)}

/-- What is tested next may use what the step before has found. -/
theorem bind (h : Decides step cs) (h' : ∀ value, step = .ok value → Decides (next value) ds) :
    Decides (step >>= next) (cs ++ ds) := by
  cases hstep : step with
  | error refused =>
    have hfirst : FirstFailing refused cs := (h.error_iff refused).1 hstep
    have hfails : ¬∀ c ∈ cs, c.holds := by
      intro hall
      obtain ⟨value, hvalue⟩ := h.ok_iff.2 hall
      rw [hstep] at hvalue
      cases hvalue
    constructor
    · refine iff_of_false ?_ ?_
      · rintro ⟨result, ⟨⟩⟩
      · intro hall
        exact hfails fun c hc => hall c (List.mem_append_left ds hc)
    · intro error
      rw [FirstFailing.append_iff, ← h.error_iff, hstep]
      show Except.error refused = Except.error error ↔ _
      simp [hfails]
  | ok value =>
    have hall : ∀ c ∈ cs, c.holds := h.ok_iff.1 ⟨value, hstep⟩
    have hnext := h' value hstep
    constructor
    · show (∃ result, next value = .ok result) ↔ _
      rw [hnext.ok_iff]
      constructor
      · intro hrest c hc
        rcases List.mem_append.1 hc with hbefore | hafter
        · exact hall c hbefore
        · exact hrest c hafter
      · intro hrest c hc
        exact hrest c (List.mem_append_right cs hc)
    · intro error
      show next value = .error error ↔ _
      rw [hnext.error_iff, FirstFailing.append_iff, ← h.error_iff, hstep, and_iff_right hall]
      simp

theorem map (h : Decides step cs) (f : α → β) : Decides (step.map f) cs where
  ok_iff := by
    rw [← h.ok_iff]
    constructor
    · rintro ⟨_, hmap⟩
      obtain ⟨value, hstep, -⟩ := map_eq_ok_iff.1 hmap
      exact ⟨value, hstep⟩
    · rintro ⟨value, hstep⟩
      exact ⟨f value, map_eq_ok_iff.2 ⟨value, hstep, rfl⟩⟩
  error_iff error := by
    rw [← h.error_iff, map_eq_error_iff]

end Decides

end Disbursement
