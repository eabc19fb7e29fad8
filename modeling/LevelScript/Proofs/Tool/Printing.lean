import LevelScript.Proofs.Canonical.Parsed
import LevelScript.Proofs.Loader.Sources
import LevelScript.Tool

namespace LevelScript

open Outcome (bind_eq_error_iff mapError_eq_error_iff mapError_eq_ok_iff)

/-!
# Printing by the tool

The tool prints what it has parsed, and everything that is parsed can be printed. So a run of
the tool may fail for many reasons, but never because something has no spelling.
-/

namespace Tool

/-- Printing a level never finds anything that has no spelling. -/
theorem canonicalText_ne_formatFault
    (settings : Settings)
    (disk : Disk)
    (input : String)
    (fault : FormatFault) :
    (canonicalText settings disk input).outcome ≠ .error (.format fault) := by
  unfold canonicalText
  simp only [Logged.outcome_bind, Logged.outcome_mapError, Logged.outcome_ofExcept, ne_eq,
    bind_eq_error_iff, mapError_eq_error_iff, mapError_eq_ok_iff]
  intro failed
  rcases failed with ⟨_, _, ⟨⟩⟩ | ⟨statements, accepted, _, refused, _⟩
  obtain ⟨source, parsed⟩ := Program.exists_parse_of_ofFile accepted
  rw [Canonical.format_of_writable _ fun _ member => Program.isWritable_of_parse parsed member]
    at refused
  cases refused

/-- Emitting an event for each item succeeds. -/
theorem outcome_forM_emit
    {ε α : Type}
    (items : List α)
    (event : α → Event Float) :
    (items.forM fun item => (Logged.emit (event item) : Logged (Event Float) ε Unit)).outcome =
      .ok () := by
  induction items with
  | nil =>
      rfl
  | cons item rest inductionHypothesis =>
      change (Logged.emit (event item) >>= fun _ =>
        rest.forM fun item => Logged.emit (event item)).outcome = _
      rw [Logged.outcome_bind, inductionHypothesis]
      rfl

/-- A check never prints anything. -/
theorem check_ne_formatFault
    (settings : Settings)
    (disk : Disk)
    (input : String)
    (fault : FormatFault) :
    (check settings disk input).outcome ≠ .error (.format fault) := by
  have syntaxOnly : (checkSyntax disk input).outcome ≠ .error (.format fault) := by
    unfold checkSyntax
    simp only [Logged.outcome_bind, Logged.outcome_mapError, Logged.outcome_emit, ne_eq,
      bind_eq_error_iff, mapError_eq_error_iff]
    intro failed
    rcases failed with ⟨_, _, ⟨⟩⟩ | ⟨_, _, ⟨⟩⟩
  have whole : ∀ loader, (checkLevel loader disk input).outcome ≠ .error (.format fault) := by
    intro loader
    unfold checkLevel
    simp only [Logged.outcome_bind, Logged.outcome_mapError, Logged.outcome_emit,
      outcome_forM_emit, ne_eq, bind_eq_error_iff, mapError_eq_error_iff]
    intro failed
    rcases failed with ⟨_, _, ⟨⟩⟩ | ⟨_, _, ⟨⟨⟩⟩ | ⟨_, _, ⟨⟩⟩⟩
  unfold check probeRegistry
  rw [Logged.outcome_bind, ne_eq, bind_eq_error_iff]
  intro failed
  rcases failed with ⟨⟨⟩⟩ | ⟨registry, _, failed⟩
  split at failed
  · rw [Logged.outcome_bind, bind_eq_error_iff] at failed
    rcases failed with failed | ⟨_, _, ⟨⟩⟩
    exact syntaxOnly failed
  · rw [Logged.outcome_bind, bind_eq_error_iff] at failed
    rcases failed with failed | ⟨_, _, ⟨⟩⟩
    exact whole _ failed

/-- The tool never reports anything that has no spelling. -/
theorem run_ne_formatFault
    (surroundings : Surroundings)
    (invocation : Invocation)
    (fault : FormatFault) :
    (run surroundings invocation).outcome ≠ .error (.format fault) := by
  unfold run
  simp only [Logged.outcome_bind, Logged.outcome_emit, Logged.outcome_mapError, ne_eq,
    bind_eq_error_iff, mapError_eq_error_iff, mapError_eq_ok_iff]
  intro failed
  rcases failed with ⟨⟨⟩⟩ | ⟨_, _, ⟨_, _, ⟨⟩⟩ | ⟨settings, _, failed⟩⟩
  split at failed
  · exact check_ne_formatFault _ _ _ _ failed
  · unfold Tool.format at failed
    rw [Logged.outcome_bind, bind_eq_error_iff] at failed
    rcases failed with failed | ⟨text, _, failed⟩
    · exact canonicalText_ne_formatFault _ _ _ _ failed
    · split at failed
      · cases failed
      · simp only [Logged.outcome_bind, Logged.outcome_ofExcept, Logged.outcome_emit,
          Logged.outcome_pure, bind_eq_error_iff, mapError_eq_error_iff] at failed
        rcases failed with ⟨_, _, ⟨⟩⟩ | ⟨_, _, ⟨⟨⟩⟩ | ⟨_, _, ⟨⟩⟩⟩

end Tool

end LevelScript
