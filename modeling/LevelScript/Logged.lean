namespace LevelScript

/-!
# Computations that keep a log

A logged computation ends in a result or an error, and in either case it has a log of
what happened before. An error stops the computation, so it is the end of the log too.
-/

/-- What happened, in order, and how it ended. -/
structure Logged (τ ε β : Type) where
  events : List τ
  outcome : Except ε β

namespace Logged

variable {τ ε β γ : Type}

/-- Nothing happens before the result. -/
protected def pure
    (value : β) :
    Logged τ ε β :=
  ⟨[], .ok value⟩

/-- The second computation goes on from the result of the first, if there is one. -/
protected def bind
    (first : Logged τ ε β)
    (next : β → Logged τ ε γ) :
    Logged τ ε γ :=
  match first.outcome with
  | .ok value => ⟨first.events ++ (next value).events, (next value).outcome⟩
  | .error error => ⟨first.events, .error error⟩

instance : Monad (Logged τ ε) where
  pure := Logged.pure
  bind := Logged.bind

/-- A result or an error without any event. -/
def ofExcept
    (outcome : Except ε β) :
    Logged τ ε β :=
  ⟨[], outcome⟩

instance : MonadLift (Except ε) (Logged τ ε) where
  monadLift := ofExcept

/-- One event. -/
def emit
    (event : τ) :
    Logged τ ε Unit :=
  ⟨[event], .ok ()⟩

/-- The same computation with its error told in another way. -/
def mapError
    (change : ε → γ)
    (logged : Logged τ ε β) :
    Logged τ γ β :=
  ⟨logged.events, logged.outcome.mapError change⟩

@[simp] theorem outcome_pure
    (value : β) :
    (pure value : Logged τ ε β).outcome = .ok value :=
  rfl

@[simp] theorem events_pure
    (value : β) :
    (pure value : Logged τ ε β).events = [] :=
  rfl

/-- Outcomes compose as if there were no log. -/
@[simp] theorem outcome_bind
    (first : Logged τ ε β)
    (next : β → Logged τ ε γ) :
    (first >>= next).outcome = first.outcome >>= fun value => (next value).outcome := by
  obtain ⟨events, outcome⟩ := first
  cases outcome <;> rfl

/-- After a result the logs of both computations follow each other. -/
theorem events_bind_ok
    {first : Logged τ ε β}
    {value : β}
    (next : β → Logged τ ε γ)
    (succeeded : first.outcome = .ok value) :
    (first >>= next).events = first.events ++ (next value).events := by
  obtain ⟨events, outcome⟩ := first
  subst succeeded
  rfl

/-- After an error nothing is logged. -/
theorem events_bind_error
    {first : Logged τ ε β}
    {error : ε}
    (next : β → Logged τ ε γ)
    (failed : first.outcome = .error error) :
    (first >>= next).events = first.events := by
  obtain ⟨events, outcome⟩ := first
  subst failed
  rfl

/-- Two computations after the same one agree if they do on its result. -/
theorem bind_congr_of_ok
    {first : Logged τ ε β}
    {next other : β → Logged τ ε γ}
    (agree : ∀ value, first.outcome = .ok value → next value = other value) :
    first >>= next = first >>= other := by
  obtain ⟨events, outcome⟩ := first
  cases outcome with
  | ok value =>
      change Logged.mk (events ++ (next value).events) (next value).outcome =
        Logged.mk (events ++ (other value).events) (other value).outcome
      rw [agree value rfl]
  | error error =>
      rfl

/-- What holds of the events of two computations holds of those of their sequence. -/
theorem forall_events_bind
    {holds : τ → Prop}
    {first : Logged τ ε β}
    {next : β → Logged τ ε γ}
    (inFirst : ∀ event ∈ first.events, holds event)
    (inNext : ∀ value, first.outcome = .ok value → ∀ event ∈ (next value).events, holds event) :
    ∀ event ∈ (first >>= next).events, holds event := by
  cases succeeded : first.outcome with
  | ok value =>
      rw [events_bind_ok next succeeded]
      exact List.forall_mem_append.2 ⟨inFirst, inNext value succeeded⟩
  | error error =>
      rw [events_bind_error next succeeded]
      exact inFirst

@[simp] theorem outcome_mapError
    (change : ε → γ)
    (logged : Logged τ ε β) :
    (logged.mapError change).outcome = logged.outcome.mapError change :=
  rfl

/-- Telling an error in another way leaves the log as it is. -/
@[simp] theorem events_mapError
    (change : ε → γ)
    (logged : Logged τ ε β) :
    (logged.mapError change).events = logged.events :=
  rfl

@[simp] theorem outcome_ofExcept
    (outcome : Except ε β) :
    (ofExcept outcome : Logged τ ε β).outcome = outcome :=
  rfl

@[simp] theorem events_ofExcept
    (outcome : Except ε β) :
    (ofExcept outcome : Logged τ ε β).events = [] :=
  rfl

@[simp] theorem outcome_emit
    (event : τ) :
    (emit event : Logged τ ε Unit).outcome = .ok () :=
  rfl

@[simp] theorem events_emit
    (event : τ) :
    (emit event : Logged τ ε Unit).events = [event] :=
  rfl

@[simp] theorem outcome_monadLift
    (outcome : Except ε β) :
    (monadLift outcome : Logged τ ε β).outcome = outcome :=
  rfl

@[simp] theorem events_monadLift
    (outcome : Except ε β) :
    (monadLift outcome : Logged τ ε β).events = [] :=
  rfl

end Logged

end LevelScript
