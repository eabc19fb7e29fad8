import LevelScript.Loader
import LevelScript.Proofs.Outcome

namespace LevelScript

open Outcome (bind_eq_ok_iff)

/-!
# Sources of levels

Without its log, reading a source is parsing it, and loading it is running what was parsed.
-/

namespace Program

/-- The statements that are read from a source are those that are parsed. -/
theorem outcome_ofSource
    (source : String) :
    (ofSource source).outcome = (parse source).mapError (.parse · source) := by
  unfold ofSource parse
  cases parseTokens source <;> rfl

/-- The statements that are read from a file are parsed from some source. -/
theorem exists_parse_of_ofFile
    {disk : Disk}
    {path : String}
    {statements : List (Located (Statement Float))}
    (accepted : (ofFile disk path).outcome = .ok statements) :
    ∃ source, parse source = .ok statements := by
  unfold ofFile at accepted
  rw [Logged.outcome_bind, bind_eq_ok_iff] at accepted
  obtain ⟨source, _, fromSource⟩ := accepted
  rw [outcome_ofSource, Outcome.mapError_eq_ok_iff] at fromSource
  exact ⟨source, fromSource⟩

end Program

namespace Loader

/-- Loading a source is running what was parsed. -/
theorem outcome_loadSource
    (loader : Loader)
    {source : String}
    {statements : List (Located (Statement Float))}
    (parsed : Program.parse source = .ok statements) :
    (loader.loadSource source).outcome =
      (loader.runStatements statements).outcome.mapError (.load · source) := by
  unfold loadSource
  rw [Logged.outcome_bind, Program.outcome_ofSource, parsed]
  rfl

end Loader

end LevelScript
