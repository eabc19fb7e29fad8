import LevelScript.Disk
import LevelScript.Logged
import LevelScript.Settings

namespace LevelScript

/-!
# Where settings come from

A path that is given explicitly is the only one tried. Otherwise the file in the working
directory comes before the one of the system, and without either the defaults apply.
-/

/-- What surrounds a run of the tool. -/
structure Surroundings where
  disk : Disk
  /-- The directory in which the system keeps settings, if it has one. -/
  systemDirectory : Option String

/-- Why settings cannot be loaded. -/
inductive SettingsError where
  /-- The file holds no document, or not the expected values. -/
  | malformed
  | missingFile (path : String)
  | unreadable (fault : IoFault)
deriving Repr, DecidableEq

namespace SettingsError

/-- The message of an error. -/
def message :
    SettingsError →
    String
  | .malformed => "Failed to parse TOML configuration"
  | .missingFile path => "Missing configuration file: " ++ path
  | .unreadable fault => "Failed to read configuration file: " ++ fault.message

end SettingsError

namespace Settings

/-- A computation on settings that may stop with an error. -/
abbrev Reading (β : Type) := Logged (Event Float) SettingsError β

/-- The place of the settings of a working directory. -/
def localPath : String :=
  "ldl/config.toml"

/-- The place of the settings in a directory of the system. -/
def systemPath
    (directory : String) :
    String :=
  directory ++ "/config.toml"

/-- The settings that a source text gives. -/
def ofSource
    (source : String) :
    Reading Settings :=
  match parse? source with
  | none => Logged.ofExcept (.error .malformed)
  | some settings => do
      Logged.emit (.parsedSettings settings.classes.length)
      return settings

/-- The settings in a file. -/
def ofFile
    (disk : Disk)
    (origin : SettingsOrigin)
    (path : String) :
    Reading Settings := do
  Logged.emit (.loadingSettings origin path)
  match disk.readText path with
  | .ok source => ofSource source
  | .error .notFound => Logged.ofExcept (.error (.missingFile path))
  | .error fault => Logged.ofExcept (.error (.unreadable fault))

/-- The settings when there is no file. -/
def default : Reading Settings := do
  Logged.emit .defaultSettings
  return {}

/-- The settings that the system keeps, or the defaults. -/
def ofSystem
    (surroundings : Surroundings) :
    Reading Settings :=
  match surroundings.systemDirectory with
  | none => do
      Logged.emit .noSystemDirectory
      default
  | some directory =>
      let path := systemPath directory
      if surroundings.disk.contains path then
        ofFile surroundings.disk .system path
      else do
        Logged.emit (.noSystemSettings path)
        default

/-- The settings of a run. -/
def find
    (surroundings : Surroundings)
    (explicitPath : Option String) :
    Reading Settings :=
  match explicitPath with
  | some path => ofFile surroundings.disk .explicit path
  | none =>
      if surroundings.disk.contains localPath then
        ofFile surroundings.disk .workingDirectory localPath
      else
        ofSystem surroundings

end Settings

end LevelScript
