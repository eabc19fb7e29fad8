import LevelScript.Proofs.Construction.Resolution

namespace LevelScript

/-!
# What is not constructed

A construction fails for one of four reasons, which exclude each other. The relations below
list them with the error that each one gives, in terms of what is registered.
-/

variable {α : Type}

/-- A constructor is the first one of a class with parameters of exactly these kinds. -/
def EntityClass.Chooses
    (entityClass : EntityClass α)
    (kinds : List LiteralKind)
    (constructor : Constructor α) :
    Prop :=
  ∃ earlier later,
    entityClass.constructors = earlier ++ constructor :: later ∧
      constructor.params = kinds ∧
      ∀ other ∈ earlier, other.params ≠ kinds

namespace Registry

/-- An entity is what the chosen constructor of a class builds. -/
def Builds
    (registry : Registry α)
    (className : Name)
    (arguments : List (Literal α))
    (entity : Entity α) :
    Prop :=
  ∃ entityClass constructor,
    registry.lookup className = .found entityClass ∧
      entityClass.Chooses (arguments.map Literal.kind) constructor ∧
      constructor.build arguments = .ok entity

/-- A name stands for no class of entities, which is an error of one of two kinds. -/
inductive Unresolved
    (registry : Registry α)
    (className : Name)
    (span : Span) :
    LoadErrorKind → LoadError → Prop where
  | notRegistered :
      registry.lookup className = .notFound →
      Unresolved registry className span .invalidClass ⟨.unknownClass className, span⟩
  | notEntityClass :
      registry.lookup className = .notConstructible →
      Unresolved registry className span .incompatibleClass ⟨.notEntityClass className, span⟩

/-- No entity is built of a class, which is an error of one of four kinds. -/
inductive Unbuilt
    (registry : Registry α)
    (className : Name)
    (arguments : List (Literal α))
    (span : Span) :
    LoadErrorKind → LoadError → Prop where
  | unresolved
      {kind : LoadErrorKind}
      {error : LoadError} :
      registry.Unresolved className span kind error →
      Unbuilt registry className arguments span kind error
  | noConstructor
      {entityClass : EntityClass α} :
      registry.lookup className = .found entityClass →
      (∀ constructor ∈ entityClass.constructors,
        constructor.params ≠ arguments.map Literal.kind) →
      Unbuilt registry className arguments span .incompatibleInitializer
        ⟨.noConstructor className (arguments.map Literal.kind) entityClass.signatures, span⟩
  | constructorFailed
      {entityClass : EntityClass α}
      {constructor : Constructor α}
      {reason : String} :
      registry.lookup className = .found entityClass →
      entityClass.Chooses (arguments.map Literal.kind) constructor →
      constructor.build arguments = .error reason →
      Unbuilt registry className arguments span .initializationError
        ⟨.constructorFailed className reason, span⟩

end Registry

/-! ## The choice of a constructor -/

section Choice

variable {entityClass : EntityClass α} {arguments : List (Literal α)}

/-- A constructor is found exactly if it is the chosen one. -/
theorem EntityClass.findConstructor?_eq_some_iff
    {constructor : Constructor α} :
    entityClass.findConstructor? arguments = some constructor ↔
      entityClass.Chooses (arguments.map Literal.kind) constructor := by
  unfold findConstructor? Chooses
  rw [List.find?_eq_some_iff_append]
  simp only [Constructor.accepts_iff, Bool.not_eq_true', ← Bool.not_eq_true]
  constructor
  · rintro ⟨accepts, earlier, later, constructors, refused⟩
    exact ⟨earlier, later, constructors, accepts, refused⟩
  · rintro ⟨earlier, later, constructors, accepts, refused⟩
    exact ⟨accepts, earlier, later, constructors, refused⟩

/-- No constructor is found exactly if none has parameters of these kinds. -/
theorem EntityClass.findConstructor?_eq_none_iff :
    entityClass.findConstructor? arguments = none ↔
      ∀ constructor ∈ entityClass.constructors,
        constructor.params ≠ arguments.map Literal.kind := by
  unfold findConstructor?
  simp only [List.find?_eq_none, Constructor.accepts_iff, ne_eq]

end Choice

namespace Registry

variable {registry : Registry α} {className : Name} {arguments : List (Literal α)} {span : Span}
  {error : LoadError}

theorem Unresolved.kind_eq
    {kind : LoadErrorKind}
    (unresolved : registry.Unresolved className span kind error) :
    error.kind = kind ∧ error.span = span := by
  cases unresolved with
  | notRegistered _ =>
      exact ⟨rfl, rfl⟩
  | notEntityClass _ =>
      exact ⟨rfl, rfl⟩

theorem Unbuilt.kind_eq
    {kind : LoadErrorKind}
    (unbuilt : registry.Unbuilt className arguments span kind error) :
    error.kind = kind ∧ error.span = span := by
  cases unbuilt with
  | unresolved unresolved =>
      exact unresolved.kind_eq
  | noConstructor _ _ =>
      exact ⟨rfl, rfl⟩
  | constructorFailed _ _ _ =>
      exact ⟨rfl, rfl⟩

/-- A name is not resolved exactly if it stands for no class of entities. -/
theorem resolve_eq_error_iff :
    registry.resolve className span = .error error ↔
      ∃ kind, registry.Unresolved className span kind error := by
  constructor
  · intro failed
    unfold resolve at failed
    cases found : registry.lookup className with
    | found entityClass =>
        rw [found] at failed
        cases failed
    | notFound =>
        rw [found] at failed
        cases failed
        exact ⟨_, .notRegistered found⟩
    | notConstructible =>
        rw [found] at failed
        cases failed
        exact ⟨_, .notEntityClass found⟩
  · rintro ⟨kind, unresolved⟩
    unfold resolve
    cases unresolved with
    | notRegistered isUnknown =>
        rw [isUnknown]
    | notEntityClass isOther =>
        rw [isOther]

/-- An entity is constructed exactly if the chosen constructor builds it. -/
theorem construct_eq_ok_iff_builds
    {entity : Entity α} :
    (registry.construct className arguments span).outcome = .ok entity ↔
      registry.Builds className arguments entity := by
  simp only [construct_eq_ok_iff, EntityClass.findConstructor?_eq_some_iff, Builds]

/-- A construction fails exactly for one of the four reasons. -/
theorem construct_eq_error_iff :
    (registry.construct className arguments span).outcome = .error error ↔
      ∃ kind, registry.Unbuilt className arguments span kind error := by
  rw [outcome_construct, Outcome.bind_eq_error_iff]
  constructor
  · rintro (unresolved | ⟨entityClass, resolved, failed⟩)
    · obtain ⟨kind, unresolved⟩ := resolve_eq_error_iff.1 unresolved
      exact ⟨kind, .unresolved unresolved⟩
    · have isClass := resolve_eq_ok_iff.1 resolved
      cases chosen : entityClass.findConstructor? arguments with
      | none =>
          rw [chosen] at failed
          cases failed
          exact ⟨_, .noConstructor isClass (EntityClass.findConstructor?_eq_none_iff.1 chosen)⟩
      | some constructor =>
          rw [chosen] at failed
          obtain ⟨reason, fails, rfl⟩ := Outcome.mapError_eq_error_iff.1 failed
          have chooses := EntityClass.findConstructor?_eq_some_iff.1 chosen
          exact ⟨_, .constructorFailed isClass chooses fails⟩
  · rintro ⟨kind, unbuilt⟩
    cases unbuilt with
    | unresolved unresolved =>
        exact Or.inl (resolve_eq_error_iff.2 ⟨kind, unresolved⟩)
    | @noConstructor entityClass isClass noneFits =>
        refine Or.inr ⟨entityClass, resolve_eq_ok_iff.2 isClass, ?_⟩
        rw [EntityClass.findConstructor?_eq_none_iff.2 noneFits]
    | @constructorFailed entityClass constructor reason isClass chooses fails =>
        refine Or.inr ⟨entityClass, resolve_eq_ok_iff.2 isClass, ?_⟩
        rw [EntityClass.findConstructor?_eq_some_iff.2 chooses]
        exact Outcome.mapError_eq_error_iff.2 ⟨reason, fails, rfl⟩

end Registry

end LevelScript
