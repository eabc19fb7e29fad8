import LevelScript.Proofs.Construction.Failure

namespace LevelScript

/-!
# Overloaded constructors

Of the constructors of a class the one at the least index is run whose parameters are the kinds of
the arguments, position by position. It is the only one that is run, so what the others would do
with these arguments, and what it would do with others, makes no difference. The kind of a failure
tells how far a construction has come.
-/

variable {α : Type}

/-- There are as many arguments as parameters, and their kinds agree position by position. -/
def Constructor.Fits
    (constructor : Constructor α)
    (arguments : List (Literal α)) :
    Prop :=
  List.Forall₂ (fun kind argument => kind = argument.kind) constructor.params arguments

/-- A constructor is the one of least index whose parameters fit the arguments. -/
structure EntityClass.ChoosesAt
    (entityClass : EntityClass α)
    (arguments : List (Literal α))
    (index : Nat)
    (constructor : Constructor α) :
    Prop where
  isThere : entityClass.constructors[index]? = some constructor
  fits : constructor.Fits arguments
  isLeast : ∀ earlier < index, ∀ other,
    entityClass.constructors[earlier]? = some other → ¬other.Fits arguments

/-- A class name stands for a class that chooses a constructor for some arguments. -/
def Registry.Selects
    (registry : Registry α)
    (className : Name)
    (arguments : List (Literal α))
    (constructor : Constructor α) :
    Prop :=
  ∃ entityClass index,
    registry.lookup className = .found entityClass ∧
      entityClass.ChoosesAt arguments index constructor

/-- The construction of an entity fails with an error of some kind. -/
def Registry.FailsWith
    (registry : Registry α)
    (className : Name)
    (arguments : List (Literal α))
    (span : Span)
    (kind : LoadErrorKind) :
    Prop :=
  ∃ error,
    (registry.construct className arguments span).outcome = .error error ∧ error.kind = kind

/-- The same constructor, but for what it does with arguments that do not fit. -/
def Constructor.altered
    (other : Constructor α → List (Literal α) → Except String (Entity α))
    (constructor : Constructor α) :
    Constructor α where
  params := constructor.params
  build arguments :=
    if constructor.params = arguments.map Literal.kind then
      constructor.build arguments
    else
      other constructor arguments

/-- The same class with altered constructors. -/
def EntityClass.altered
    (other : Constructor α → List (Literal α) → Except String (Entity α))
    (entityClass : EntityClass α) :
    EntityClass α where
  name := entityClass.name
  constructors := entityClass.constructors.map (.altered other)

/-! ## The choice by index -/

/-- A constructor is found exactly if it is the first one at some index. -/
theorem EntityClass.findConstructor?_eq_some_iff_choosesAt
    {entityClass : EntityClass α}
    {arguments : List (Literal α)}
    {constructor : Constructor α} :
    entityClass.findConstructor? arguments = some constructor ↔
      ∃ index, entityClass.ChoosesAt arguments index constructor := by
  unfold findConstructor?
  rw [List.find?_eq_some_iff_getElem]
  constructor
  · rintro ⟨accepts, index, inBounds, isThere, refused⟩
    refine ⟨index, ?_, Constructor.accepts_iff_forall₂.1 accepts, ?_⟩
    · rw [List.getElem?_eq_getElem inBounds, isThere]
    · intro earlier isEarlier other isOther fits
      obtain ⟨inBounds, rfl⟩ := List.getElem?_eq_some_iff.1 isOther
      have isRefused := refused earlier isEarlier
      rw [Constructor.accepts_iff_forall₂.2 fits] at isRefused
      cases isRefused
  · rintro ⟨index, isThere, fits, isLeast⟩
    obtain ⟨inBounds, rfl⟩ := List.getElem?_eq_some_iff.1 isThere
    refine ⟨Constructor.accepts_iff_forall₂.2 fits, index, inBounds, rfl, ?_⟩
    intro earlier isEarlier
    rw [Bool.not_eq_true', Bool.eq_false_iff]
    intro accepts
    exact
      isLeast earlier isEarlier _ (List.getElem?_eq_getElem _)
        (Constructor.accepts_iff_forall₂.1 accepts)

/-- Arguments fit if their kinds are the parameters. -/
theorem Constructor.fits_iff
    {constructor : Constructor α}
    {arguments : List (Literal α)} :
    constructor.Fits arguments ↔ constructor.params = arguments.map Literal.kind := by
  rw [← accepts_iff, accepts_iff_forall₂, Fits]

/-! ## What is run -/

namespace Registry

section Construction

variable {registry : Registry α} {className : Name} {arguments : List (Literal α)}

/-- A constructor is selected exactly if it is found. -/
theorem selects_iff
    {constructor : Constructor α} :
    registry.Selects className arguments constructor ↔
      ∃ entityClass,
        registry.lookup className = .found entityClass ∧
          entityClass.findConstructor? arguments = some constructor := by
  simp only [Selects, EntityClass.findConstructor?_eq_some_iff_choosesAt, exists_and_left]

theorem selects_of_chooses
    {entityClass : EntityClass α}
    {constructor : Constructor α}
    (isClass : registry.lookup className = .found entityClass)
    (chooses : entityClass.Chooses (arguments.map Literal.kind) constructor) :
    registry.Selects className arguments constructor :=
  selects_iff.2 ⟨entityClass, isClass, EntityClass.findConstructor?_eq_some_iff.2 chooses⟩

/-- A construction depends on the registry only through what the class name stands for. -/
theorem construct_congr
    {other : Registry α}
    (same : registry.lookup className = other.lookup className)
    (span : Span) :
    registry.construct className arguments span = other.construct className arguments span := by
  unfold construct resolve
  rw [same]

/-- The selected constructor is run, and this is all that happens. -/
theorem construct_of_selects
    {constructor : Constructor α}
    (selects : registry.Selects className arguments constructor)
    (span : Span) :
    registry.construct className arguments span =
      ⟨[.runningConstructor className constructor.params],
        (constructor.build arguments).mapError fun reason =>
          ⟨.constructorFailed className reason, span⟩⟩ := by
  obtain ⟨entityClass, isClass, isFound⟩ := selects_iff.1 selects
  unfold construct resolve
  rw [isClass]
  change Logged.bind ⟨[], .ok entityClass⟩ _ = _
  simp only [Logged.bind, isFound]
  rfl

/-- Where no constructor of a class is found, the construction fails at once. -/
theorem construct_of_findConstructor?_eq_none
    {entityClass : EntityClass α}
    (isClass : registry.lookup className = .found entityClass)
    (noneFound : entityClass.findConstructor? arguments = none)
    (span : Span) :
    registry.construct className arguments span =
      ⟨[],
        .error
          ⟨.noConstructor className (arguments.map Literal.kind) entityClass.signatures,
            span⟩⟩ := by
  unfold construct resolve
  rw [isClass]
  change Logged.bind ⟨[], .ok entityClass⟩ _ = _
  simp only [Logged.bind, noneFound]
  rfl

/-- Where no constructor is selected, none is run. -/
theorem events_construct_of_not_selects
    (notSelects : ∀ constructor, ¬registry.Selects className arguments constructor)
    (span : Span) :
    (registry.construct className arguments span).events = [] := by
  cases meaning : registry.lookup className with
  | found entityClass =>
      have noneFound : entityClass.findConstructor? arguments = none := by
        rw [Option.eq_none_iff_forall_ne_some]
        intro constructor isFound
        exact notSelects constructor (selects_iff.2 ⟨entityClass, meaning, isFound⟩)
      rw [construct_of_findConstructor?_eq_none meaning noneFound]
  | notFound =>
      unfold construct resolve
      rw [meaning]
      rfl
  | notConstructible =>
      unfold construct resolve
      rw [meaning]
      rfl

/-- An entity is constructed exactly if the selected constructor builds it. -/
theorem construct_eq_ok_iff_selects
    {span : Span}
    {entity : Entity α} :
    (registry.construct className arguments span).outcome = .ok entity ↔
      ∃ constructor,
        registry.Selects className arguments constructor ∧
          constructor.build arguments = .ok entity := by
  simp only [construct_eq_ok_iff, selects_iff]
  constructor
  · rintro ⟨entityClass, constructor, isClass, isFound, builds⟩
    exact ⟨constructor, ⟨entityClass, isClass, isFound⟩, builds⟩
  · rintro ⟨constructor, ⟨entityClass, isClass, isFound⟩, builds⟩
    exact ⟨entityClass, constructor, isClass, isFound, builds⟩

/-! ## What is not run -/

section Altered

variable (other : Constructor α → List (Literal α) → Except String (Entity α))

/-- An altered class makes the same choice. -/
theorem findConstructor?_altered
    (entityClass : EntityClass α)
    (arguments : List (Literal α)) :
    (entityClass.altered other).findConstructor? arguments =
      (entityClass.findConstructor? arguments).map (.altered other) := by
  unfold EntityClass.findConstructor? EntityClass.altered
  rw [List.find?_map]
  rfl

theorem signatures_altered
    (entityClass : EntityClass α) :
    (entityClass.altered other).signatures = entityClass.signatures := by
  rw [EntityClass.signatures, EntityClass.altered, List.map_map]
  rfl

/-- Nothing else is constructed of an altered class. -/
theorem construct_altered
    {altered : Registry α}
    {entityClass : EntityClass α}
    (isClass : registry.lookup className = .found entityClass)
    (isAltered : altered.lookup className = .found (entityClass.altered other))
    (span : Span) :
    altered.construct className arguments span =
      registry.construct className arguments span := by
  have sameChoice := findConstructor?_altered other entityClass arguments
  cases isFound : entityClass.findConstructor? arguments with
  | none =>
      rw [isFound] at sameChoice
      rw [construct_of_findConstructor?_eq_none isClass isFound,
        construct_of_findConstructor?_eq_none isAltered sameChoice, signatures_altered]
  | some constructor =>
      rw [isFound] at sameChoice
      have fits := Constructor.accepts_iff.1 (mem_and_accepts_of_findConstructor? isFound).2
      rw [construct_of_selects (selects_iff.2 ⟨entityClass, isClass, isFound⟩),
        construct_of_selects (selects_iff.2 ⟨_, isAltered, sameChoice⟩)]
      simp only [Constructor.altered, fits, if_true]

end Altered

/-! ## What a failure tells -/

/-- The kind of a failure is that of its cause. -/
theorem failsWith_iff
    {span : Span}
    {kind : LoadErrorKind} :
    registry.FailsWith className arguments span kind ↔
      ∃ error, registry.Unbuilt className arguments span kind error := by
  constructor
  · rintro ⟨error, failed, rfl⟩
    obtain ⟨kind, unbuilt⟩ := construct_eq_error_iff.1 failed
    rw [unbuilt.kind_eq.1]
    exact ⟨error, unbuilt⟩
  · rintro ⟨error, unbuilt⟩
    exact ⟨error, construct_eq_error_iff.2 ⟨kind, unbuilt⟩, unbuilt.kind_eq.1⟩

theorem failsWith_invalidClass_iff
    {span : Span} :
    registry.FailsWith className arguments span .invalidClass ↔
      registry.lookup className = .notFound := by
  rw [failsWith_iff]
  constructor
  · rintro ⟨error, unbuilt⟩
    cases unbuilt with
    | unresolved unresolved =>
        cases unresolved with
        | notRegistered isUnknown =>
            exact isUnknown
  · intro isUnknown
    exact ⟨_, .unresolved (.notRegistered isUnknown)⟩

theorem failsWith_incompatibleClass_iff
    {span : Span} :
    registry.FailsWith className arguments span .incompatibleClass ↔
      registry.lookup className = .notConstructible := by
  rw [failsWith_iff]
  constructor
  · rintro ⟨error, unbuilt⟩
    cases unbuilt with
    | unresolved unresolved =>
        cases unresolved with
        | notEntityClass isOther =>
            exact isOther
  · intro isOther
    exact ⟨_, .unresolved (.notEntityClass isOther)⟩

theorem failsWith_incompatibleInitializer_iff
    {span : Span} :
    registry.FailsWith className arguments span .incompatibleInitializer ↔
      ∃ entityClass,
        registry.lookup className = .found entityClass ∧
          ∀ constructor ∈ entityClass.constructors, ¬constructor.Fits arguments := by
  rw [failsWith_iff]
  simp only [Constructor.fits_iff]
  constructor
  · rintro ⟨error, unbuilt⟩
    cases unbuilt with
    | unresolved unresolved =>
        cases unresolved
    | noConstructor isClass noneFits =>
        exact ⟨_, isClass, noneFits⟩
  · rintro ⟨entityClass, isClass, noneFits⟩
    exact ⟨_, .noConstructor isClass noneFits⟩

/-- A failed constructor is the selected one, and the error tells its reason. -/
theorem exists_reason_of_construct_eq_error
    {span : Span}
    {error : LoadError}
    (failed : (registry.construct className arguments span).outcome = .error error)
    (isKind : error.kind = .initializationError) :
    ∃ constructor reason,
      registry.Selects className arguments constructor ∧
        constructor.build arguments = .error reason ∧
        error = ⟨.constructorFailed className reason, span⟩ := by
  obtain ⟨kind, unbuilt⟩ := construct_eq_error_iff.1 failed
  cases unbuilt with
  | unresolved unresolved =>
      cases unresolved <;> cases isKind
  | noConstructor _ _ =>
      cases isKind
  | constructorFailed isClass chooses fails =>
      exact ⟨_, _, selects_of_chooses isClass chooses, fails, rfl⟩

theorem failsWith_initializationError_iff
    {span : Span} :
    registry.FailsWith className arguments span .initializationError ↔
      ∃ constructor reason,
        registry.Selects className arguments constructor ∧
          constructor.build arguments = .error reason := by
  constructor
  · rintro ⟨error, failed, isKind⟩
    obtain ⟨constructor, reason, selects, fails, _⟩ :=
      exists_reason_of_construct_eq_error failed isKind
    exact ⟨constructor, reason, selects, fails⟩
  · rintro ⟨constructor, reason, selects, fails⟩
    refine ⟨⟨.constructorFailed className reason, span⟩, ?_, rfl⟩
    rw [construct_of_selects selects, fails]
    rfl

/-- A construction fails in one of four ways. -/
theorem kind_mem_of_construct_eq_error
    {span : Span}
    {error : LoadError}
    (failed : (registry.construct className arguments span).outcome = .error error) :
    error.kind ∈ [LoadErrorKind.invalidClass, .incompatibleClass, .incompatibleInitializer,
      .initializationError] := by
  obtain ⟨kind, unbuilt⟩ := construct_eq_error_iff.1 failed
  rw [unbuilt.kind_eq.1]
  cases unbuilt with
  | unresolved unresolved =>
      cases unresolved <;> simp
  | noConstructor _ _ =>
      simp
  | constructorFailed _ _ _ =>
      simp

end Construction

end Registry

end LevelScript
