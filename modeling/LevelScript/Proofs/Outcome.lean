namespace LevelScript.Outcome

/-!
# Computations that may fail

How a composed computation succeeds or fails, in terms of its parts.
-/

variable {ε δ α β : Type}

/-- A sequence of two computations succeeds if the second one does on the first result. -/
theorem bind_eq_ok_iff
    {first : Except ε α}
    {next : α → Except ε β}
    {result : β} :
    first >>= next = .ok result ↔ ∃ value, first = .ok value ∧ next value = .ok result := by
  constructor
  · intro succeeded
    cases first with
    | ok value =>
        exact ⟨value, rfl, succeeded⟩
    | error =>
        cases succeeded
  · intro parts
    obtain ⟨value, firstSucceeded, nextSucceeded⟩ := parts
    rw [firstSucceeded]
    exact nextSucceeded

/-- A sequence of two computations fails if the first one does, or the second one after it. -/
theorem bind_eq_error_iff
    {first : Except ε α}
    {next : α → Except ε β}
    {error : ε} :
    first >>= next = .error error ↔
      first = .error error ∨ ∃ value, first = .ok value ∧ next value = .error error := by
  constructor
  · intro failed
    cases first with
    | ok value =>
        exact Or.inr ⟨value, rfl, failed⟩
    | error =>
        cases failed
        exact Or.inl rfl
  · intro parts
    rcases parts with firstFailed | ⟨value, firstSucceeded, nextFailed⟩
    · rw [firstFailed]
      rfl
    · rw [firstSucceeded]
      exact nextFailed

/-- Two computations after the same one agree if they do on its results. -/
theorem bind_congr_of_ok
    {first : Except ε α}
    {next other : α → Except ε β}
    (agree : ∀ value, first = .ok value → next value = other value) :
    first >>= next = first >>= other := by
  cases first with
  | ok value =>
      exact agree value rfl
  | error =>
      rfl

theorem mapError_eq_error_iff
    {change : ε → δ}
    {outcome : Except ε α}
    {error : δ} :
    outcome.mapError change = .error error ↔
      ∃ cause, outcome = .error cause ∧ change cause = error := by
  constructor
  · intro failed
    cases outcome with
    | ok =>
        cases failed
    | error cause =>
        cases failed
        exact ⟨cause, rfl, rfl⟩
  · intro failed
    obtain ⟨cause, outcomeFailed, rfl⟩ := failed
    rw [outcomeFailed]
    rfl

theorem mapError_eq_ok_iff
    {change : ε → δ}
    {outcome : Except ε α}
    {result : α} :
    outcome.mapError change = .ok result ↔ outcome = .ok result := by
  constructor
  · intro succeeded
    cases outcome with
    | ok =>
        cases succeeded
        rfl
    | error =>
        cases succeeded
  · intro succeeded
    rw [succeeded]
    rfl

theorem map_eq_ok_iff
    {change : α → β}
    {outcome : Except ε α}
    {result : β} :
    outcome.map change = .ok result ↔ ∃ value, outcome = .ok value ∧ change value = result := by
  constructor
  · intro succeeded
    cases outcome with
    | ok value =>
        cases succeeded
        exact ⟨value, rfl, rfl⟩
    | error =>
        cases succeeded
  · intro parts
    obtain ⟨value, outcomeSucceeded, rfl⟩ := parts
    rw [outcomeSucceeded]
    rfl

/-- A checked result is a result if the check succeeds. -/
theorem ite_eq_ok_iff
    {condition : Prop}
    [Decidable condition]
    {value result : α}
    {error : ε} :
    (if condition then Except.ok value else .error error) = .ok result ↔
      condition ∧ value = result := by
  by_cases holds : condition
  · rw [if_pos holds, Except.ok.injEq]
    exact ⟨fun same => ⟨holds, same⟩, fun both => both.2⟩
  · rw [if_neg holds]
    constructor
    · intro succeeded
      cases succeeded
    · intro both
      exact (holds both.1).elim

/-! ## Two computations -/

/-- Two computations both end in related results or both in the same error. -/
inductive Related
    (results : α → β → Prop) :
    Except ε α → Except ε β → Prop where
  | ok
      {first : α}
      {second : β} :
      results first second →
      Related results (.ok first) (.ok second)
  | error
      (error : ε) :
      Related results (.error error) (.error error)

namespace Related

theorem of_eq
    {first second : Except ε α}
    (same : first = second) :
    Related Eq first second := by
  subst same
  cases first with
  | ok result =>
      exact .ok rfl
  | error error =>
      exact .error error

/-- Related results may be related in a weaker way too. -/
theorem imp
    {results weaker : α → β → Prop}
    {first : Except ε α}
    {second : Except ε β}
    (related : Related results first second)
    (weakens : ∀ {result counterpart}, results result counterpart → weaker result counterpart) :
    Related weaker first second := by
  cases related with
  | ok results =>
      exact .ok (weakens results)
  | error error =>
      exact .error error

/-- After related results computations go on from related states. -/
theorem bind
    {γ : Type}
    {results : α → β → Prop}
    {finalResults : γ → δ → Prop}
    {first : Except ε α}
    {second : Except ε β}
    {next : α → Except ε γ}
    {other : β → Except ε δ}
    (related : Related results first second)
    (goesOn : ∀ {result counterpart}, results result counterpart →
      Related finalResults (next result) (other counterpart)) :
    Related finalResults (first >>= next) (second >>= other) := by
  cases related with
  | ok results =>
      exact goesOn results
  | error error =>
      exact .error error

/-- After one and the same computation two others go on with its result. -/
theorem after
    {γ : Type}
    {results : α → β → Prop}
    (first : Except ε γ)
    {next : γ → Except ε α}
    {other : γ → Except ε β}
    (goesOn : ∀ result, Related results (next result) (other result)) :
    Related results (first >>= next) (first >>= other) := by
  cases first with
  | ok result =>
      exact goesOn result
  | error error =>
      exact .error error

end Related

end LevelScript.Outcome
