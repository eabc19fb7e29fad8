import LevelScript.Proofs.Outcome
import LevelScript.Tool

namespace LevelScript.Tool

open Outcome (bind_eq_ok_iff)

/-!
# Files around a run

A run is given the files as a value, and answers with the files it wants. It may as well be
told as an action, which looks at the files as they are and writes to them as it goes on, and
which leaves them as they then are where it stops. Both are the same, because a run writes
last.
-/

/-- An action on the files that may stop with an error. -/
abbrev FileAction (β : Type) := ExceptT ToolError (StateM Disk) β

/-- How an action ends, and the files that it leaves. -/
def perform
    {β : Type}
    (action : FileAction β)
    (disk : Disk) :
    Except ToolError β × Disk :=
  action.run.run disk

/-- What is found out from the files as they are. -/
def look
    {β : Type}
    (view : Disk → ToolRun β) :
    FileAction β := do
  let disk ← get
  match (view disk).outcome with
  | .ok value => return value
  | .error error => throw error

/-- A text is written to the file at a path. -/
def write
    (path text : String) :
    FileAction Unit := do
  let disk ← get
  match disk.writeText path text with
  | .ok written => set written
  | .error fault => throw (.io fault)

/-- The tool does what it is called for, and answers with the text for the standard output. -/
def act
    (systemDirectory : Option String)
    (invocation : Invocation) :
    FileAction String := do
  let settings ← look fun disk =>
    (Settings.find ⟨disk, systemDirectory⟩ invocation.settingsPath).mapError .settings
  match invocation.command with
  | .check input => do
      let _ ← look fun disk => check settings disk input
      return ""
  | .format input output => do
      let text ← look fun disk => canonicalText settings disk input
      match output with
      | none => return text
      | some path => do
          write path text
          return ""

section Steps

variable {β γ : Type} (disk : Disk)

end Steps

/-! ## Runs as actions -/

end LevelScript.Tool
