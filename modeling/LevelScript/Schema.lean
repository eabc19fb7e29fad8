import LevelScript.Event
import LevelScript.Registry

namespace LevelScript

/-!
# Class schemas

A level can be checked without the classes it is written for. A schema declares of each
class what its constructors accept and which connectors its entities have. Its entities
are probes: they start at the origin and have the declared connectors.
-/

/-- A connector that faces along its Z axis. -/
structure ConnectorSchema (α : Type) where
  name : Name
  position : Vec3 α
deriving Repr, DecidableEq

/-- What is declared of one class. -/
structure ClassSchema (α : Type) where
  name : Name
  /-- The class can be placed in a level. -/
  isEntityClass : Bool := true
  /-- The kinds of parameters of each constructor, in the order they are tried. -/
  constructors : List (List LiteralKind) := []
  /-- None if the entities cannot be connected. -/
  connectors : Option (List (ConnectorSchema α)) := none
deriving Repr, DecidableEq

namespace ConnectorSchema

/-- The declared connector by its name. -/
def entry
    [Scalar α]
    (schema : ConnectorSchema α) :
    Name × Connector α :=
  (schema.name, Connector.ofPosition schema.position)

end ConnectorSchema

namespace ClassSchema

/-- The entity that stands for every entity of the class. -/
def probe
    [Scalar α]
    (schema : ClassSchema α) :
    Entity α where
  transform := Transform.identity
  connectors := schema.connectors.map fun connectors =>
    Table.ofList (connectors.map ConnectorSchema.entry)

/-- The class whose constructors all build the probe. -/
def probeClass
    [Scalar α]
    (schema : ClassSchema α) :
    EntityClass α where
  name := schema.name
  constructors := schema.constructors.map fun params => ⟨params, fun _ => .ok schema.probe⟩

/-- The registry with the declared class. -/
def register
    [Scalar α]
    (registry : Registry α)
    (schema : ClassSchema α) :
    Registry α :=
  if schema.isEntityClass then
    registry.register schema.probeClass
  else
    registry.registerOther schema.name

/-- What happens when the declared class is registered. -/
def registrationEvents
    (schema : ClassSchema α) :
    List (Event α) :=
  if schema.isEntityClass then
    let count := schema.constructors.length
    [.registeredProbe schema.name count, .registeringClass schema.name count]
  else
    []

end ClassSchema

namespace Registry

/-- The registry of declared classes; of two with the same name the later one counts. -/
def ofSchema
    [Scalar α]
    (classes : List (ClassSchema α)) :
    Registry α :=
  classes.foldl ClassSchema.register empty

end Registry

end LevelScript
