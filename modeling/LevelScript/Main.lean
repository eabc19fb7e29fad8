import LevelScript.CommandLine
import LevelScript.Report

namespace LevelScript.Console

/-!
# The program

The files that a run may read are read first, the run itself is computed, and what it
leaves behind is written and printed afterwards.
-/

/-- The bytes of a file, if it can be read. -/
def readBytes?
    (path : String) :
    IO (Option ByteArray) := do
  try
    return some (← IO.FS.readBinFile path)
  catch _ =>
    return none

/-- The directory that a file is in. -/
def directoryOf
    (path : String) :
    String :=
  match (path.toList.reverse.dropWhile (· != '/')).reverse with
  | [] => "."
  | characters => String.ofList characters

/-- The directory that a file is in exists. -/
def hasDirectory
    (path : String) :
    IO Bool := do
  try
    let _ ← IO.FS.realPath (directoryOf path)
    return true
  catch _ =>
    return false

/-- The directory in which the system keeps settings. -/
def systemDirectory? : IO (Option String) := do
  match ← IO.getEnv "XDG_CONFIG_HOME" with
  | some base => return some (base ++ "/ldl")
  | none => return (← IO.getEnv "HOME").map (· ++ "/.config/ldl")

/-- The file that a command writes. -/
def outputOf? :
    Command →
    Option String
  | .check _ => none
  | .format _ output => output

/-- What surrounds a run, with all files that it may ask for. -/
def lookAround
    (invocation : Invocation) :
    IO Surroundings := do
  let systemDirectory ← systemDirectory?
  let paths := [invocation.command.input, Settings.localPath] ++
    invocation.settingsPath.toList ++ (systemDirectory.map Settings.systemPath).toList
  let files ← paths.mapM fun path => do return (path, ← readBytes? path)
  let output := outputOf? invocation.command
  let isWritable ← output.elim (pure false) hasDirectory
  let disk : Disk := {
    contents := fun path => (files.find? fun file => file.1 = path).bind Prod.snd
    accepts := fun path => isWritable && output == some path }
  return { disk, systemDirectory }

/-- The records of a log that the word for its level lets through are printed. -/
def printLog
    (logLevel : String)
    (events : List (Event Float)) :
    IO Unit := do
  if logLevel.toLower = "off" then
    return
  let limit := (Severity.ofText? logLevel).getD .warn
  for record in Record.ofEvents limit events do
    IO.eprintln record.line

/-- What a run leaves behind is written and printed. -/
def finish
    (invocation : Invocation)
    (result : ToolResult) :
    IO Unit := do
  IO.print result.printed
  match outputOf? invocation.command with
  | none => return
  | some path =>
      match result.disk.contents path with
      | none => return
      | some bytes => IO.FS.writeBinFile path bytes

/-- The tool is run, and the answer is its exit code. -/
def runTool
    (invocation : Invocation) :
    IO UInt32 := do
  let run := Tool.run (← lookAround invocation) invocation
  match run.outcome with
  | .ok result =>
      finish invocation result
      printLog invocation.logLevel run.events
      return 0
  | .error error =>
      printLog invocation.logLevel run.events
      for report in Report.ofToolError error do
        IO.eprintln report.text
      return 1

/-- The answer to a command line that does not start a run. -/
def refuse
    (error : CommandLine.UsageError) :
    IO UInt32 := do
  match error with
  | .help =>
      IO.println error.message
      return 0
  | .version =>
      IO.println error.message
      return 0
  | _ =>
      IO.eprintln error.message
      return 2

end LevelScript.Console

/-- The command line is read and the tool run with it. -/
def main
    (arguments : List String) :
    IO UInt32 := do
  match LevelScript.CommandLine.parse arguments with
  | .ok invocation => LevelScript.Console.runTool invocation
  | .error error => LevelScript.Console.refuse error
