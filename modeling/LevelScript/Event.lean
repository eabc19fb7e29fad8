import LevelScript.Decimal.Layout
import LevelScript.Statement

namespace LevelScript

/-!
# The log of a run

Everything that happens while a level is read, run, checked or printed is an event. An
event is recorded with a severity, a message and named details.
-/

/-- How much an event matters, from the most to the least. -/
inductive Severity where
  | error
  | warn
  | info
  | debug
  | trace
deriving Repr, DecidableEq

/-- Where the settings of the tool were found. -/
inductive SettingsOrigin where
  | explicit
  | workingDirectory
  | system
deriving Repr, DecidableEq

/-- What happens in a run. -/
inductive Event (α : Type) where
  | readingLevel (path : String)
  | parsingLevel
  | parsedSource (tokens statements : Nat)
  | parsedLevel (statements : Nat)
  | runningLevel (statements : Nat)
  | runningStatement (kind : StatementKind) (offset : Nat)
  | definedAlias (short className : Name)
  | redefinedAlias (short previous className : Name)
  /-- A name is declared again and no longer stands for the earlier entity. -/
  | reboundName (name : Name) (offset : Nat)
  | runningConstructor (className : Name) (params : List LiteralKind)
  | constructedEntity (name className : Name) (connectors : Nat)
  | placedEntity (name : Name) (position : Vec3 α)
  | connectedEntities (moved base : Name) (position : Vec3 α)
  | ranLevel (entities names aliases : Nat)
  | builtLevel (entities : Nat)
  | builtLevelDetails
  | registeringClass (className : Name) (constructors : Nat)
  | registeredProbe (className : Name) (constructors : Nat)
  | processingLevel (path : String)
  | loadingSettings (origin : SettingsOrigin) (path : String)
  | noSystemSettings (path : String)
  | noSystemDirectory
  | defaultSettings
  | parsedSettings (classes : Nat)
  | validLevel (statements : Nat)
  | foundEntity (name className : Name) (position : Vec3 α)
  | checkedLevel (entities : Nat)
  | wroteLevel (path : String)
deriving Repr, DecidableEq

/-- An event as it is shown. -/
structure Record where
  severity : Severity
  message : String
  details : List (String × String)
deriving Repr, DecidableEq

namespace Severity

/-- The word for a severity. -/
def text :
    Severity →
    String
  | .error => "ERROR"
  | .warn => "WARN"
  | .info => "INFO"
  | .debug => "DEBUG"
  | .trace => "TRACE"

/-- The severity that a word stands for, in any case of its letters. -/
def ofText?
    (word : String) :
    Option Severity :=
  match word.toLower with
  | "error" => some .error
  | "warn" => some .warn
  | "info" => some .info
  | "debug" => some .debug
  | "trace" => some .trace
  | _ => none

/-- Severities are numbered from the one that matters most. -/
def rank :
    Severity →
    Nat
  | .error => 0
  | .warn => 1
  | .info => 2
  | .debug => 3
  | .trace => 4

/-- Events of this severity are shown when all up to `limit` are. -/
def isWithin
    (severity limit : Severity) :
    Bool :=
  severity.rank ≤ limit.rank

end Severity

namespace Event

/-- How much an event matters. -/
def severity :
    Event α →
    Severity
  | .readingLevel _ => .info
  | .parsingLevel => .info
  | .parsedSource _ _ => .debug
  | .parsedLevel _ => .debug
  | .runningLevel _ => .info
  | .runningStatement _ _ => .trace
  | .definedAlias _ _ => .debug
  | .redefinedAlias _ _ _ => .debug
  | .reboundName _ _ => .warn
  | .runningConstructor _ _ => .trace
  | .constructedEntity _ _ _ => .debug
  | .placedEntity _ _ => .trace
  | .connectedEntities _ _ _ => .trace
  | .ranLevel _ _ _ => .info
  | .builtLevel _ => .debug
  | .builtLevelDetails => .trace
  | .registeringClass _ _ => .trace
  | .registeredProbe _ _ => .debug
  | .processingLevel _ => .info
  | .loadingSettings _ _ => .info
  | .noSystemSettings _ => .debug
  | .noSystemDirectory => .debug
  | .defaultSettings => .debug
  | .parsedSettings _ => .debug
  | .validLevel _ => .info
  | .foundEntity _ _ _ => .info
  | .checkedLevel _ => .info
  | .wroteLevel _ => .info

/-- The message of an event. -/
def message :
    Event α →
    String
  | .readingLevel _ => "Reading level"
  | .parsingLevel => "Parsing level"
  | .parsedSource _ _ => "Parsed level source"
  | .parsedLevel _ => "Level parsed successfully"
  | .runningLevel _ => "Executing level statements"
  | .runningStatement _ _ => "Executing statement"
  | .definedAlias _ _ => "Alias defined"
  | .redefinedAlias _ _ _ => "Alias redefined"
  | .reboundName _ _ => "Entity name rebound; the earlier entity stays in the level"
  | .runningConstructor _ _ => "Invoking constructor"
  | .constructedEntity _ _ _ => "Constructed entity"
  | .placedEntity _ _ => "Positioned entity"
  | .connectedEntities _ _ _ => "Connected entities"
  | .ranLevel _ _ _ => "Level executed"
  | .builtLevel _ => "Level built"
  | .builtLevelDetails => "Built level"
  | .registeringClass _ _ => "Registering entity class"
  | .registeredProbe _ _ => "Registered probe class"
  | .processingLevel _ => "Processing level"
  | .loadingSettings .explicit _ => "Loading configuration from explicit path"
  | .loadingSettings .workingDirectory _ => "Loading configuration from local path"
  | .loadingSettings .system _ => "Loading configuration from system path"
  | .noSystemSettings _ => "System configuration file not found"
  | .noSystemDirectory => "Could not determine platform-specific config directory"
  | .defaultSettings => "No configuration file found, using defaults"
  | .parsedSettings _ => "Configuration parsed"
  | .validLevel _ => "Level is syntactically valid"
  | .foundEntity _ _ _ => "Placed entity"
  | .checkedLevel _ => "Level checked successfully"
  | .wroteLevel _ => "Formatted level written"

/-- A vector as the details of an event show it. -/
def vectorText
    (vector : Vec3 Float) :
    String :=
  "DVec3(" ++ ", ".intercalate (vector.toList.map Decimal.Layout.record.text) ++ ")"

/-- The details of an event by name. -/
def details :
    Event Float →
    List (String × String)
  | .readingLevel path => [("path", path)]
  | .parsingLevel => []
  | .parsedSource tokens statements =>
      [("tokens", toString tokens), ("statements", toString statements)]
  | .parsedLevel statements => [("statements", toString statements)]
  | .runningLevel statements => [("statements", toString statements)]
  | .runningStatement kind offset =>
      [("kind", kind.keyword), ("location", toString offset)]
  | .definedAlias short className => [("alias", short.text), ("class", className.text)]
  | .redefinedAlias short previous className =>
      [("alias", short.text), ("previous", previous.text), ("class", className.text)]
  | .reboundName name offset => [("name", name.text), ("location", toString offset)]
  | .runningConstructor className params =>
      [("class", className.text), ("params", LiteralKind.signature params)]
  | .constructedEntity name className connectors =>
      [("name", name.text), ("class", className.text), ("connectors", toString connectors)]
  | .placedEntity name position =>
      [("name", name.text), ("translation", vectorText position)]
  | .connectedEntities moved base position =>
      [("moved", moved.text), ("base", base.text), ("translation", vectorText position)]
  | .ranLevel entities names aliases =>
      [("entities", toString entities), ("names", toString names),
        ("aliases", toString aliases)]
  | .builtLevel entities => [("entities", toString entities)]
  | .builtLevelDetails => []
  | .registeringClass className constructors =>
      [("class", className.text), ("constructors", toString constructors)]
  | .registeredProbe className constructors =>
      [("class", className.text), ("constructors", toString constructors)]
  | .processingLevel path => [("input_path", path)]
  | .loadingSettings _ path => [("path", path)]
  | .noSystemSettings path => [("path", path)]
  | .noSystemDirectory => []
  | .defaultSettings => []
  | .parsedSettings classes => [("classes", toString classes)]
  | .validLevel statements => [("statements", toString statements)]
  | .foundEntity name className position =>
      [("name", name.text), ("class", className.text),
        ("x", Decimal.plainText position.x), ("y", Decimal.plainText position.y),
        ("z", Decimal.plainText position.z)]
  | .checkedLevel entities => [("entities", toString entities)]
  | .wroteLevel path => [("output_file", path)]

/-- An event as it is shown. -/
def record
    (event : Event Float) :
    Record :=
  ⟨event.severity, event.message, event.details⟩

end Event

namespace Record

/-- A record on one line. -/
def line
    (record : Record) :
    String :=
  let details := record.details.map fun (name, value) => " " ++ name ++ "=" ++ value
  "[" ++ record.severity.text ++ "] " ++ record.message ++ "".intercalate details

end Record

/-- The records of a log up to a severity. -/
def Record.ofEvents
    (limit : Severity)
    (events : List (Event Float)) :
    List Record :=
  (events.filter fun event => event.severity.isWithin limit).map Event.record

end LevelScript
