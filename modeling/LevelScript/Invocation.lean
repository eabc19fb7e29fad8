namespace LevelScript

/-!
# Invocations of the tool

The tool is asked for one thing at a time: to check a level or to print it.
-/

/-- What the tool is asked to do with the level at `input`. -/
inductive Command where
  | check (input : String)
  /-- The canonical form goes to the file `output`, or is printed if there is none. -/
  | format (input : String) (output : Option String)
deriving Repr, DecidableEq

/-- How the tool is called. -/
structure Invocation where
  command : Command
  /-- The file with the settings, if one is given. -/
  settingsPath : Option String := none
  /-- The word for how much of the log is shown. -/
  logLevel : String := "info"
deriving Repr, DecidableEq

namespace Command

/-- The file of the level. -/
def input :
    Command →
    String
  | .check input => input
  | .format input _ => input

end Command

end LevelScript
