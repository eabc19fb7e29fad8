import LevelScript.Invocation
import LevelScript.Loader
import LevelScript.Settings.Source

namespace LevelScript

/-!
# The tool

The tool checks a level or prints it in canonical form. A check without declared classes
only parses the level; with them it runs the level on probes. Nothing is written before
everything that could be wrong with a level has been ruled out.
-/

/-- Why the tool fails. -/
inductive ToolError where
  | level (error : LevelError)
  | settings (error : SettingsError)
  | format (fault : FormatFault)
  /-- The output cannot be written. -/
  | io (fault : IoFault)

/-- What a run of the tool leaves behind. -/
structure ToolResult where
  disk : Disk
  /-- The text for the standard output. -/
  printed : String := ""

/-- A run of the tool that may stop with an error. -/
abbrev ToolRun (β : Type) := Logged (Event Float) ToolError β

namespace ToolError

/-- The message of an error. -/
def message :
    ToolError →
    String
  | .level error => error.message
  | .settings error => error.message
  | .format fault => "Cannot format level: " ++ fault.message
  | .io fault => "I/O error: " ++ fault.message

end ToolError

namespace Tool

/-- The registry of the classes that settings declare. -/
def probeRegistry
    (settings : Settings) :
    ToolRun (Registry Float) :=
  ⟨settings.classes.flatMap ClassSchema.registrationEvents,
    .ok (Registry.ofSchema settings.classes)⟩

/-- The level at a path is parsed. -/
def checkSyntax
    (disk : Disk)
    (input : String) :
    ToolRun Unit := do
  let statements ← (Program.ofFile disk input).mapError .level
  Logged.emit (.validLevel statements.length)

/-- The level at a path is run. -/
def checkLevel
    (loader : Loader)
    (disk : Disk)
    (input : String) :
    ToolRun Unit := do
  let level ← (loader.loadFile disk input).mapError .level
  level.entities.forM fun placed =>
    Logged.emit (.foundEntity placed.name placed.className placed.position)
  Logged.emit (.checkedLevel level.size)

/-- The level at a path is parsed, and run if there are declared classes. -/
def check
    (settings : Settings)
    (disk : Disk)
    (input : String) :
    ToolRun ToolResult := do
  let registry ← probeRegistry settings
  if settings.classes.isEmpty then
    checkSyntax disk input
  else
    checkLevel ⟨registry, settings.policy⟩ disk input
  return { disk }

/-- The canonical form of the level at a path. -/
def canonicalText
    (settings : Settings)
    (disk : Disk)
    (input : String) :
    ToolRun String := do
  let statements ← (Program.ofFile disk input).mapError .level
  Logged.ofExcept ((Canonical.format settings.layout statements).mapError .format)

/-- The canonical form of the level at a path is written or printed. -/
def format
    (settings : Settings)
    (disk : Disk)
    (input : String)
    (output : Option String) :
    ToolRun ToolResult := do
  let text ← canonicalText settings disk input
  match output with
  | none => return { disk, printed := text }
  | some path =>
      let written ← Logged.ofExcept ((disk.writeText path text).mapError .io)
      Logged.emit (.wroteLevel path)
      return { disk := written }

/-- The tool does what it is called for. -/
def run
    (surroundings : Surroundings)
    (invocation : Invocation) :
    ToolRun ToolResult := do
  Logged.emit (.processingLevel invocation.command.input)
  let settings ← (Settings.find surroundings invocation.settingsPath).mapError .settings
  match invocation.command with
  | .check input => check settings surroundings.disk input
  | .format input output => format settings surroundings.disk input output

end Tool

end LevelScript
