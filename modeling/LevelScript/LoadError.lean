import LevelScript.Literal
import LevelScript.Name
import LevelScript.Span

namespace LevelScript

/-!
# Load errors

Why a statement of a level fails. A load error points at the name or the statement that
is to blame.
-/

/-- The kinds of load errors. -/
inductive LoadErrorKind where
  | invalidClass
  | incompatibleClass
  | incompatibleInitializer
  | initializationError
  | invalidEntity
  | incompatibleEntity
  | duplicateName
deriving Repr, DecidableEq

/-- What is wrong with a statement. -/
inductive LoadFault where
  | unknownClass (className : Name)
  /-- The name is registered, but not for a class of entities. -/
  | notEntityClass (className : Name)
  /-- No constructor of the class has parameters of the kinds of the arguments. -/
  | noConstructor
      (className : Name)
      (kinds : List LiteralKind)
      (available : List (List LiteralKind))
  | constructorFailed (className : Name) (reason : String)
  | unknownEntity (name : Name)
  /-- The entity cannot be connected at all. -/
  | noConnectors (entity : Name)
  | noConnector (entity connector : Name)
  | alreadyDeclared (name : Name)
deriving Repr, DecidableEq

/-- Why a level fails to load, and where. -/
structure LoadError where
  fault : LoadFault
  span : Span
deriving Repr, DecidableEq

namespace LoadErrorKind

/-- The stable code of a kind. -/
def code :
    LoadErrorKind →
    String
  | .invalidClass => "ldl::invalid_class"
  | .incompatibleClass => "ldl::incompatible_class"
  | .incompatibleInitializer => "ldl::incompatible_initializer"
  | .initializationError => "ldl::initialization_error"
  | .invalidEntity => "ldl::invalid_entity"
  | .incompatibleEntity => "ldl::incompatible_entity"
  | .duplicateName => "ldl::duplicate_name"

/-- The label of a kind at the place that is to blame. -/
def description :
    LoadErrorKind →
    String
  | .invalidClass => "unknown class"
  | .incompatibleClass => "not an entity class"
  | .incompatibleInitializer => "no matching constructor"
  | .initializationError => "constructor failed"
  | .invalidEntity => "unknown entity"
  | .incompatibleEntity => "missing connector"
  | .duplicateName => "already declared"

end LoadErrorKind

namespace LoadFault

/-- The kind of a fault. -/
def kind :
    LoadFault →
    LoadErrorKind
  | .unknownClass _ => .invalidClass
  | .notEntityClass _ => .incompatibleClass
  | .noConstructor _ _ _ => .incompatibleInitializer
  | .constructorFailed _ _ => .initializationError
  | .unknownEntity _ => .invalidEntity
  | .noConnectors _ => .incompatibleEntity
  | .noConnector _ _ => .incompatibleEntity
  | .alreadyDeclared _ => .duplicateName

/-- A name as messages quote it. -/
def quote
    (name : Name) :
    String :=
  "`" ++ name.text ++ "`"

/-- The message of a fault. -/
def message :
    LoadFault →
    String
  | .unknownClass className => "class " ++ quote className ++ " is not registered"
  | .notEntityClass className =>
      "class " ++ quote className ++ " cannot be constructed as an entity"
  | .noConstructor className kinds available =>
      if available.isEmpty then
        "class " ++ quote className ++ " has no constructors"
      else
        "no constructor of " ++ quote className ++ " accepts " ++
          LiteralKind.signature kinds ++ "; available: " ++
          ", ".intercalate (available.map LiteralKind.signature)
  | .constructorFailed className reason =>
      "constructor of " ++ quote className ++ " failed: " ++ reason
  | .unknownEntity name => "unknown entity " ++ quote name
  | .noConnectors entity => "entity " ++ quote entity ++ " has no connectors"
  | .noConnector entity connector =>
      "entity " ++ quote entity ++ " has no connector named " ++ quote connector
  | .alreadyDeclared name => "entity " ++ quote name ++ " is already declared"

/-- What a constructor said about its failure. -/
def reason? :
    LoadFault →
    Option String
  | .constructorFailed _ reason => some reason
  | _ => none

end LoadFault

namespace LoadError

/-- The kind of an error. -/
def kind
    (error : LoadError) :
    LoadErrorKind :=
  error.fault.kind

/-- The message of an error. -/
def message
    (error : LoadError) :
    String :=
  error.fault.message

/-- The offset of the place that is to blame. -/
def offset
    (error : LoadError) :
    Nat :=
  error.span.start

end LoadError

end LevelScript
