import LevelScript.Proofs.Canonical.NormalForm
import LevelScript.Proofs.Loader.Formatting
import LevelScript.Proofs.Settings.Files
import LevelScript.Proofs.Tool.Files
import LevelScript.Proofs.Tool.Printing

namespace LevelScript

/-!
# Formatting files

A level is formatted into a file as a whole or not at all. What keeps it from being formatted
is found before anything is written, and then all files stay as they are. A file that is
formatted in place comes to rest at once, and is checked with the same verdict as before.
-/

open Outcome (bind_eq_ok_iff mapError_eq_ok_iff)

/-! ## Formatting a source -/

namespace Program

end Program

/-! ## Verdicts -/

/-- An error that does not tell where in which source a statement has failed. -/
def ToolError.unplaced :
    ToolError →
    ToolError
  | .level (.load error _) => .level (.load ⟨error.fault, Span.origin⟩ "")
  | error => error

namespace Tool

/-- A run and its action end in the same way, and the action leaves the given files. -/
def Ends
    (surroundings : Surroundings)
    (invocation : Invocation)
    (outcome : Except ToolError String)
    (files : Disk) :
    Prop :=
  (run surroundings invocation).outcome.map ToolResult.printed = outcome ∧
    perform (act surroundings.systemDirectory invocation) surroundings.disk = (outcome, files)

/-! ## How runs end -/

section Endings

variable {surroundings : Surroundings} {invocation : Invocation} {settings : Settings}
  {settingsPath : Option String}

end Endings

section Levels

variable {settings : Settings} {disk : Disk} {input source text : String}
  {statements : List (Located (Statement Float))}

end Levels

/-! ## Formatting in place -/

section InPlace

variable {surroundings : Surroundings} {settingsPath : Option String} {settings : Settings}
  {input source text : String} {statements : List (Located (Statement Float))}

end InPlace

/-! ## All or nothing -/

section Formatting

variable {surroundings : Surroundings} {settingsPath : Option String} {settings : Settings}
  {input output : String}

end Formatting

end Tool

end LevelScript
