import LevelScript.Proofs.Toml.Programs
import LevelScript.Settings.Source

namespace LevelScript

/-!
# The file of the settings

Settings depend on which files exist and on what one of them holds. If this file is formatted
as a level, it holds no statement before and after, and settings can still be read from it.
-/

namespace Disk

end Disk

namespace Settings

/-- The settings that a text gives, without the log. -/
def inText
    (source : String) :
    Except SettingsError Settings :=
  match parse? source with
  | some settings => .ok settings
  | none => .error .malformed

theorem outcome_ofSource
    (source : String) :
    (ofSource source).outcome = inText source := by
  unfold ofSource inText
  cases parse? source <;> rfl

end Settings

end LevelScript
