import LevelScript.Construction
import LevelScript.Level

namespace LevelScript

/-!
# Running statements

Statements run strictly in order. Each one changes the session that the statements before
it have left, and the first one that fails ends the run. Only a session in which all
statements have succeeded becomes a level.
-/

/-- What a declaration does when its name is already declared. -/
inductive RedeclarationPolicy where
  /-- The name stands for the new entity, and the earlier one stays in the level. -/
  | allow
  /-- The declaration fails. -/
  | reject
deriving Repr, DecidableEq, Inhabited

/-- The tables that the statements run so far have built. -/
structure Session (α : Type) where
  /-- The classes that short names stand for. -/
  aliases : Table Name
  /-- The positions of the entities that names stand for. -/
  names : Table Nat
  /-- All entities in the order of their declarations. -/
  entities : List (PlacedEntity α)

namespace Session

variable {α : Type}

/-- The session before the first statement. -/
def empty : Session α where
  aliases := Table.empty
  names := Table.empty
  entities := []

/-- The level that a session becomes. -/
def toLevel
    (session : Session α) :
    Level α where
  entities := session.entities
  bindings := session.names

/-- An entity of a session and its position. -/
structure Found (α : Type) where
  index : Nat
  placed : PlacedEntity α

/-- The entity that a name stands for. -/
def lookup
    (session : Session α)
    (name : Located Name) :
    Except LoadError (Found α) :=
  match session.names.get? name.value with
  | none => .error ⟨.unknownEntity name.value, name.span⟩
  | some index =>
      match session.entities[index]? with
      | none => .error ⟨.unknownEntity name.value, name.span⟩
      | some placed => .ok ⟨index, placed⟩

/-- A connector of an entity; an error points at the entity's or the connector's name. -/
def connector
    (placed : PlacedEntity α)
    (entity connector : Located Name) :
    Except LoadError (Connector α) :=
  match placed.connectors with
  | none => .error ⟨.noConnectors entity.value, entity.span⟩
  | some connectors =>
      match connectors.get? connector.value with
      | none => .error ⟨.noConnector entity.value connector.value, connector.span⟩
      | some found => .ok found

/-- The session with an entity moved to another transform. -/
def move
    (session : Session α)
    (found : Found α)
    (transform : Transform α) :
    Session α :=
  { session with
    entities := session.entities.set found.index (found.placed.withTransform transform) }

/-- The class that a name in a declaration stands for, by at most one abbreviation. -/
def expandClass
    (session : Session α)
    (className : Name) :
    Name :=
  (session.aliases.get? className).getD className

/-- The session with one more entity, for which its name stands. -/
def append
    (session : Session α)
    (placed : PlacedEntity α) :
    Session α :=
  { session with
    entities := session.entities ++ [placed]
    names := session.names.insert placed.name session.entities.length }

/-- A short name is made to stand for a class that must exist. -/
def abbreviate
    (registry : Registry α)
    (session : Session α)
    (short className : Located Name) :
    Loading α (Session α) := do
  let _ ← registry.resolve className.value className.span
  match session.aliases.get? short.value with
  | some previous => Logged.emit (.redefinedAlias short.value previous className.value)
  | none => Logged.emit (.definedAlias short.value className.value)
  return { session with aliases := session.aliases.insert short.value className.value }

/-- A name that is already declared is refused or only noted. -/
def checkName
    (policy : RedeclarationPolicy)
    (session : Session α)
    (name : Located Name) :
    Loading α Unit :=
  if session.names.contains name.value then
    match policy with
    | .reject => Logged.ofExcept (.error ⟨.alreadyDeclared name.value, name.span⟩)
    | .allow => Logged.emit (.reboundName name.value name.offset)
  else
    pure ()

/-- A new entity is built and added; a failure to build it points at `span`. -/
def declare
    (registry : Registry α)
    (policy : RedeclarationPolicy)
    (session : Session α)
    (span : Span)
    (name className : Located Name)
    (arguments : List (Located (Literal α))) :
    Loading α (Session α) := do
  checkName policy session name
  let expanded := session.expandClass className.value
  let entity ← registry.construct expanded (arguments.map Located.value) span
  Logged.emit <|
    .constructedEntity name.value expanded (entity.connectors.elim 0 Table.size)
  return session.append ⟨name.value, expanded, entity⟩

/-- An entity is moved to a position, relative to another entity's if one is named. -/
def place
    [Scalar α]
    (session : Session α)
    (name : Located Name)
    (position : Vec3 α)
    (relativeTo : Option (Located Name)) :
    Loading α (Session α) := do
  let found ← session.lookup name
  let target ←
    match relativeTo with
    | none => pure position
    | some other => do
        let origin ← session.lookup other
        pure (position + origin.placed.position)
  Logged.emit (.placedEntity name.value target)
  return session.move found (found.placed.transform.withPosition target)

/-- An entity is moved so that one of its connectors meets one of the base entity's. -/
def connect
    [Scalar α]
    (session : Session α)
    (moved movedConnector base baseConnector : Located Name) :
    Loading α (Session α) := do
  let movedEntity ← session.lookup moved
  let baseEntity ← session.lookup base
  let movedSocket ← connector movedEntity.placed moved movedConnector
  let baseSocket ← connector baseEntity.placed base baseConnector
  let world := Connector.matedTransform baseEntity.placed.transform baseSocket movedSocket
  Logged.emit (.connectedEntities moved.value base.value world.position)
  return session.move movedEntity world

/-- One statement is run. -/
def step
    [Scalar α]
    (registry : Registry α)
    (policy : RedeclarationPolicy)
    (session : Session α)
    (statement : Located (Statement α)) :
    Loading α (Session α) := do
  Logged.emit (.runningStatement statement.value.kind statement.offset)
  match statement.value with
  | .abbreviation short className => session.abbreviate registry short className
  | .declaration name className arguments =>
      session.declare registry policy statement.span name className arguments
  | .placement name position relativeTo => session.place name position.value relativeTo
  | .connection moved movedConnector base baseConnector =>
      session.connect moved movedConnector base baseConnector

/-- All statements are run in order. -/
def run
    [Scalar α]
    (registry : Registry α)
    (policy : RedeclarationPolicy)
    (session : Session α) :
    List (Located (Statement α)) →
    Loading α (Session α)
  | [] => pure session
  | statement :: rest => do
      let next ← session.step registry policy statement
      next.run registry policy rest

end Session

namespace Level

/-- The level that a list of statements describes. -/
def ofStatements
    [Scalar α]
    (registry : Registry α)
    (policy : RedeclarationPolicy)
    (statements : List (Located (Statement α))) :
    Loading α (Level α) := do
  Logged.emit (.runningLevel statements.length)
  let session ← Session.empty.run registry policy statements
  Logged.emit <|
    .ranLevel session.entities.length session.names.size session.aliases.size
  Logged.emit (.builtLevel session.entities.length)
  Logged.emit .builtLevelDetails
  return session.toLevel

end Level

end LevelScript
