import LevelScript.Construction
import LevelScript.Proofs.Outcome
import Mathlib.Data.List.Forall2

namespace LevelScript

/-!
# What is constructed

A name is resolved exactly if a class of entities is registered for it. An entity is
constructed exactly if the first constructor of its class that accepts the arguments builds
it.
-/

variable {α : Type}

/-- Arguments are accepted if their kinds are the parameters, one by one. -/
theorem Constructor.accepts_iff_forall₂
    {constructor : Constructor α}
    {arguments : List (Literal α)} :
    constructor.accepts arguments ↔
      List.Forall₂ (fun kind argument => kind = argument.kind) constructor.params arguments := by
  simp [accepts, List.forall₂_iff_zip]

theorem Constructor.accepts_iff
    {constructor : Constructor α}
    {arguments : List (Literal α)} :
    constructor.accepts arguments ↔ constructor.params = arguments.map Literal.kind := by
  rw [accepts_iff_forall₂, ← List.forall₂_map_right_iff (R := Eq), List.forall₂_eq_eq_eq]

namespace Registry

variable {registry : Registry α}

theorem resolve_eq_ok_iff
    {className : Name}
    {span : Span}
    {entityClass : EntityClass α} :
    registry.resolve className span = .ok entityClass ↔
      registry.lookup className = .found entityClass := by
  unfold resolve
  cases registry.lookup className <;> simp

/-- The chosen constructor is one of the class and accepts the arguments. -/
theorem mem_and_accepts_of_findConstructor?
    {entityClass : EntityClass α}
    {constructor : Constructor α}
    {arguments : List (Literal α)}
    (isFirst : entityClass.findConstructor? arguments = some constructor) :
    constructor ∈ entityClass.constructors ∧ constructor.accepts arguments := by
  unfold EntityClass.findConstructor? at isFirst
  have accepts := List.find?_some isFirst
  exact ⟨List.mem_of_find?_eq_some isFirst, accepts⟩

/-- Without its log, a construction is a choice and then a call of a constructor. -/
theorem outcome_construct
    (registry : Registry α)
    (className : Name)
    (arguments : List (Literal α))
    (span : Span) :
    (registry.construct className arguments span).outcome =
      registry.resolve className span >>= fun entityClass =>
        match entityClass.findConstructor? arguments with
        | none =>
            .error
              ⟨.noConstructor className (arguments.map Literal.kind) entityClass.signatures,
                span⟩
        | some constructor =>
            (constructor.build arguments).mapError fun reason =>
              ⟨.constructorFailed className reason, span⟩ := by
  simp only [construct, Logged.outcome_bind, Logged.outcome_monadLift]
  congr 1
  funext entityClass
  cases entityClass.findConstructor? arguments <;> rfl

theorem construct_eq_ok_iff
    {className : Name}
    {arguments : List (Literal α)}
    {span : Span}
    {entity : Entity α} :
    (registry.construct className arguments span).outcome = .ok entity ↔
      ∃ entityClass constructor,
        registry.lookup className = .found entityClass ∧
          entityClass.findConstructor? arguments = some constructor ∧
          constructor.build arguments = .ok entity := by
  rw [outcome_construct]
  simp only [Outcome.bind_eq_ok_iff, resolve_eq_ok_iff]
  refine exists_congr fun entityClass => ?_
  cases entityClass.findConstructor? arguments with
  | none =>
      simp
  | some constructor =>
      simp [Outcome.mapError_eq_ok_iff]

/-- Where a class is found, either no constructor accepts the arguments or one of them fails. -/
theorem kind_of_construct_eq_error
    {className : Name}
    {arguments : List (Literal α)}
    {span : Span}
    {entityClass : EntityClass α}
    {error : LoadError}
    (isClass : registry.lookup className = .found entityClass)
    (failed : (registry.construct className arguments span).outcome = .error error) :
    error.kind = .incompatibleInitializer ∨ error.kind = .initializationError := by
  rw [outcome_construct, resolve_eq_ok_iff.2 isClass, Outcome.bind_eq_error_iff] at failed
  rcases failed with notFound | ⟨_, isFound, failed⟩
  · cases notFound
  · cases isFound
    cases chosen : entityClass.findConstructor? arguments with
    | none =>
        rw [chosen] at failed
        cases failed
        exact Or.inl rfl
    | some constructor =>
        rw [chosen] at failed
        obtain ⟨reason, _, rfl⟩ := Outcome.mapError_eq_error_iff.1 failed
        exact Or.inr rfl

/-! ## Registration -/

/-- A class is found under its own name, and no other name is affected. -/
theorem lookup_register
    (registry : Registry α)
    (entityClass : EntityClass α)
    (name : Name) :
    (registry.register entityClass).lookup name =
      if name = entityClass.name then .found entityClass else registry.lookup name := by
  by_cases same : name = entityClass.name
  · simp [lookup, register, same]
  · simp [lookup, register, same, Table.get?_insert_of_ne _ _ same]

/-- A name for something else is no class of entities, and no other name is affected. -/
theorem lookup_registerOther
    (registry : Registry α)
    (other name : Name) :
    (registry.registerOther other).lookup name =
      if name = other then .notConstructible else registry.lookup name := by
  by_cases same : name = other
  · simp [lookup, registerOther, same]
  · simp [lookup, registerOther, same, Table.get?_insert_of_ne _ _ same]

end Registry

end LevelScript
