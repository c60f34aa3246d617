import Mathlib.Data.List.Basic

/-!
# Outcomes of steps

What the outcome of several steps says about each of them: all succeeded, or one
is the first that failed.
-/

namespace HandlePool

variable {ε α β : Type}

/-- Steps that all succeed give the result of the last one. -/
theorem bind_eq_ok_iff
    {first : Except ε α}
    {next : α → Except ε β}
    {result : β} :
    (first >>= next) = .ok result ↔ ∃ value, first = .ok value ∧
    next value = .ok result := by
  cases first with
  | error error => simp [bind, Except.bind]
  | ok value => simp [bind, Except.bind]

/-- One of two steps fails. -/
theorem bind_eq_error_iff
    {first : Except ε α}
    {next : α → Except ε β}
    {error : ε} :
    (first >>= next) = .error error ↔
      first = .error error ∨ ∃ value, first = .ok value ∧
      next value = .error error := by
  cases first with
  | error found => simp [bind, Except.bind]
  | ok value => simp [bind, Except.bind]

theorem map_eq_ok_iff
    {value : Except ε α}
    {function : α → β}
    {result : β} :
    value.map function = .ok result ↔ ∃ given, value = .ok given ∧
    function given = result := by
  cases value with
  | error error => simp [Except.map]
  | ok given => simp [Except.map]

theorem map_eq_error_iff
    {value : Except ε α}
    {function : α → β}
    {error : ε} :
    value.map function = .error error ↔ value = .error error := by
  cases value with
  | error found => simp [Except.map]
  | ok given => simp [Except.map]

/-- A run fails where a step fails after others that succeeded. -/
theorem foldlM_eq_error_iff
    {step : β → α → Except ε β}
    {start : β}
    {inputs : List α}
    {error : ε} :
    inputs.foldlM step start = .error error ↔
      ∃ before input after reached,
        inputs = before ++ input :: after ∧
        before.foldlM step start = .ok reached ∧
          step reached input = .error error := by
  constructor
  · intro failed
    induction inputs generalizing start with
    | nil => cases failed
    | cons input inputs inductionHypothesis =>
        rw [List.foldlM_cons, bind_eq_error_iff] at failed
        obtain failed | ⟨next, stepped, failed⟩ := failed
        · exact ⟨[], input, inputs, start, rfl, rfl, failed⟩
        · obtain ⟨before, last, after, reached, rfl, ran, lastFailed⟩ :=
            inductionHypothesis failed
          refine ⟨input :: before, last, after, reached, rfl, ?_, lastFailed⟩
          rw [List.foldlM_cons, stepped]
          exact ran
  · rintro ⟨before, input, after, reached, rfl, ran, failed⟩
    have stopped : (input :: after).foldlM step reached = .error error := by
      rw [List.foldlM_cons, failed]
      rfl
    rw [List.foldlM_append, ran]
    exact stopped

end HandlePool
