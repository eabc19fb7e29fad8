import LevelScript.Event
import LevelScript.LoadError
import LevelScript.Logged
import LevelScript.Registry

namespace LevelScript

/-!
# Construction

A class name is resolved first. Then the first constructor that accepts the kinds of the
arguments is run, and no other one is tried if it fails.
-/

/-- A computation that may stop with a load error. -/
abbrev Loading (α β : Type) := Logged (Event α) LoadError β

namespace Registry

/-- The class of entities with the given name; an error points at the given span. -/
def resolve
    (registry : Registry α)
    (className : Name)
    (span : Span) :
    Except LoadError (EntityClass α) :=
  match registry.lookup className with
  | .found entityClass => .ok entityClass
  | .notFound => .error ⟨.unknownClass className, span⟩
  | .notConstructible => .error ⟨.notEntityClass className, span⟩

/-- A new entity of a class; an error points at the given span. -/
def construct
    (registry : Registry α)
    (className : Name)
    (arguments : List (Literal α))
    (span : Span) :
    Loading α (Entity α) := do
  let entityClass ← registry.resolve className span
  match entityClass.findConstructor? arguments with
  | none =>
      Logged.ofExcept <|
        .error ⟨.noConstructor className (arguments.map Literal.kind) entityClass.signatures,
          span⟩
  | some constructor =>
      Logged.emit (.runningConstructor className constructor.params)
      Logged.ofExcept <|
        (constructor.build arguments).mapError fun reason =>
          ⟨.constructorFailed className reason, span⟩

end Registry

end LevelScript
