import LevelScript.Entity
import LevelScript.Literal

namespace LevelScript

/-!
# The registry of classes

A level builds entities of registered classes only. A class has constructors, of which
the first one whose parameters have exactly the kinds of the arguments is run. A name
may also be registered for something that is no entity.
-/

/-- One way to build an entity. -/
structure Constructor (α : Type) where
  params : List LiteralKind
  /-- Builds an entity from arguments of these kinds, or says why that fails. -/
  build : List (Literal α) → Except String (Entity α)

/-- A class of entities with its constructors in the order they are tried. -/
structure EntityClass (α : Type) where
  name : Name
  constructors : List (Constructor α)

/-- What is registered under a name. -/
inductive Registration (α : Type) where
  | entityClass (entityClass : EntityClass α)
  /-- A known name that cannot be placed as an entity. -/
  | other

/-- What a name stands for. -/
inductive Lookup (α : Type) where
  | notFound
  | notConstructible
  | found (entityClass : EntityClass α)

/-- The registered names. -/
structure Registry (α : Type) where
  registrations : Table (Registration α)

namespace Constructor

/-- There are as many arguments as parameters, and each one has the kind of its parameter. -/
def accepts
    (constructor : Constructor α)
    (arguments : List (Literal α)) :
    Bool :=
  constructor.params.length = arguments.length &&
    (constructor.params.zip arguments).all fun (kind, argument) => kind = argument.kind

end Constructor

namespace EntityClass

/-- The first constructor that accepts the arguments. -/
def findConstructor?
    (entityClass : EntityClass α)
    (arguments : List (Literal α)) :
    Option (Constructor α) :=
  entityClass.constructors.find? (·.accepts arguments)

/-- The signatures of all constructors. -/
def signatures
    (entityClass : EntityClass α) :
    List (List LiteralKind) :=
  entityClass.constructors.map Constructor.params

end EntityClass

namespace Registry

/-- The registry without names. -/
def empty : Registry α where
  registrations := Table.empty

/-- The registry with a class, which replaces what had its name. -/
def register
    (registry : Registry α)
    (entityClass : EntityClass α) :
    Registry α where
  registrations := registry.registrations.insert entityClass.name (.entityClass entityClass)

/-- The registry with a name that stands for no class of entities. -/
def registerOther
    (registry : Registry α)
    (name : Name) :
    Registry α where
  registrations := registry.registrations.insert name .other

/-- What a name stands for. -/
def lookup
    (registry : Registry α)
    (name : Name) :
    Lookup α :=
  match registry.registrations.get? name with
  | some (.entityClass entityClass) => .found entityClass
  | some .other => .notConstructible
  | none => .notFound

/-- The number of registered names. -/
def size
    (registry : Registry α) :
    Nat :=
  registry.registrations.size

/-- Nothing is registered. -/
def isEmpty
    (registry : Registry α) :
    Bool :=
  registry.registrations.isEmpty

end Registry

end LevelScript
