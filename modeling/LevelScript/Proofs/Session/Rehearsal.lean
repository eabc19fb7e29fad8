import LevelScript.Proofs.Construction.Agreement
import LevelScript.Proofs.Session.Transition

namespace LevelScript

/-!
# Rehearsals

A level can be run with probes in place of its classes. Where the probes agree with the
classes, the run with the classes can only fail earlier than the rehearsal if one of their
constructors does: transforms and the places of connectors decide nothing.
-/

variable {α : Type}

/-- All of an entity but its transform and the places of its connectors. -/
def PlacedEntity.shape
    (placed : PlacedEntity α) :
    Name × Name × Option (Name → Bool) :=
  (placed.name, placed.className, placed.connectors.map Table.contains)

/-- Levels with the same entities, as far as names and classes go, and the same bindings. -/
structure Level.SameNames
    (first second : Level α) :
    Prop where
  entities :
    first.entities.map (fun placed => (placed.name, placed.className)) =
      second.entities.map fun placed => (placed.name, placed.className)
  bindings : first.bindings = second.bindings

theorem Connectors.SameNames.map_contains
    {first second : Option (Connectors α)}
    (same : SameNames first second) :
    first.map Table.contains = second.map Table.contains := by
  cases same with
  | none =>
      rfl
  | some sameNames =>
      simp only [Option.map_some, Option.some.injEq]
      funext name
      rw [Bool.eq_iff_iff, ← Table.mem_names_iff, ← Table.mem_names_iff]
      exact sameNames name

theorem Connectors.sameNames_ofList_singleton
    (name : Name)
    (first second : Connector α) :
    SameNames (some (Table.ofList [(name, first)])) (some (Table.ofList [(name, second)])) :=
  .some fun _ => Iff.rfl

namespace Session

/-- Sessions that differ in transforms and in the places of connectors only. -/
structure SameShape
    (first second : Session α) :
    Prop where
  aliases : first.aliases = second.aliases
  names : first.names = second.names
  entities : first.entities.map PlacedEntity.shape = second.entities.map PlacedEntity.shape

/-- Entities that one name stands for in two sessions, alike but for transforms and places. -/
structure FoundAlike
    (session counterpart : Session α)
    (name : Located Name)
    (found other : Found α) :
    Prop where
  isFound : session.lookup name = .ok found
  isOther : counterpart.lookup name = .ok other
  shape : found.placed.shape = other.placed.shape

theorem sameShape_empty :
    SameShape (empty : Session α) empty where
  aliases := rfl
  names := rfl
  entities := rfl

namespace SameShape

variable {session counterpart : Session α}

theorem lookup
    (same : session.SameShape counterpart)
    (name : Located Name) :
    Outcome.Related (FoundAlike session counterpart name) (session.lookup name)
      (counterpart.lookup name) := by
  have related := related_lookup same.names same.entities name
  exact related.imp fun ⟨isFound, isOther, sameShape⟩ => ⟨isFound, isOther, sameShape⟩

theorem connector
    {placed other : PlacedEntity α}
    (same : placed.shape = other.shape)
    (entity connector : Located Name) :
    Outcome.Related (fun _ _ => True) (Session.connector placed entity connector)
      (Session.connector other entity connector) := by
  have alike := rel_of_map_eq_map (congrArg (·.2.2) same)
  unfold Session.connector
  generalize placed.connectors = sockets at alike ⊢
  generalize other.connectors = otherSockets at alike ⊢
  cases alike with
  | none =>
      exact .error _
  | @some sockets otherSockets sameNames =>
      have sameName := congrFun sameNames connector.value
      unfold Table.contains at sameName
      dsimp only
      cases isSocket : sockets.get? connector.value with
      | none =>
          rw [isSocket, Option.isSome_none, eq_comm, Option.isSome_eq_false_iff,
            Option.isNone_iff_eq_none] at sameName
          rw [sameName]
          exact .error _
      | some socket =>
          rw [isSocket, Option.isSome_some, eq_comm, Option.isSome_iff_exists] at sameName
          obtain ⟨otherSocket, isOther⟩ := sameName
          rw [isOther]
          exact .ok trivial

theorem move
    (same : session.SameShape counterpart)
    {name : Located Name}
    {found other : Found α}
    (alike : FoundAlike session counterpart name found other)
    (transform otherTransform : Transform α) :
    (session.move found transform).SameShape (counterpart.move other otherTransform) where
  aliases := same.aliases
  names := same.names
  entities := by
    rw [map_entities_move alike.isFound _ _ fun _ _ => rfl,
      map_entities_move alike.isOther _ _ fun _ _ => rfl]
    exact same.entities

theorem append
    (same : session.SameShape counterpart)
    {placed other : PlacedEntity α}
    (sameShape : placed.shape = other.shape) :
    (session.append placed).SameShape (counterpart.append other) where
  aliases := same.aliases
  names := by
    have sameLength := congrArg List.length same.entities
    simp only [List.length_map] at sameLength
    have sameName : placed.name = other.name := congrArg Prod.fst sameShape
    simp only [Session.append, same.names, sameLength, sameName]
  entities := by
    simp [Session.append, same.entities, sameShape]

end SameShape

/-! ## One statement -/

section Steps

variable {session counterpart : Session α} {first second : Registry α}
  {policy : RedeclarationPolicy}

theorem SameShape.abbreviate
    (same : session.SameShape counterpart)
    (agree : first.Agrees second)
    (short className : Located Name) :
    Outcome.Related SameShape (session.abbreviate first short className).outcome
      (counterpart.abbreviate second short className).outcome := by
  have sameAliases : SameShape
      { session with aliases := session.aliases.insert short.value className.value }
      { counterpart with
        aliases := counterpart.aliases.insert short.value className.value } :=
    ⟨by rw [same.aliases], same.names, same.entities⟩
  rw [outcome_abbreviate, outcome_abbreviate]
  exact (agree.related_resolve className.value className.span).bind fun _ => .ok sameAliases

theorem SameShape.declare
    (same : session.SameShape counterpart)
    (agree : first.Agrees second)
    (neverFails : first.NeverFails)
    (policy : RedeclarationPolicy)
    (span : Span)
    (name className : Located Name)
    (arguments : List (Located (Literal α))) :
    InStep second span SameShape
      (session.declare first policy span name className arguments).outcome
      (counterpart.declare second policy span name className arguments).outcome := by
  have sameCheck : Outcome.Related Eq (checkName policy session name).outcome
      (checkName policy counterpart name).outcome := by
    rw [checkName_congr same.names]
    exact .of_eq rfl
  unfold Session.declare
  rw [expandClass_congr same.aliases]
  simp only [Logged.outcome_bind, Logged.outcome_emit, Logged.outcome_pure]
  refine .bind_of_related sameCheck fun _ => ?_
  have built := agree.construct neverFails (counterpart.expandClass className.value)
    (arguments.map Located.value) span
  refine built.bind_ok fun sameConnectors => same.append ?_
  simp only [PlacedEntity.shape, PlacedEntity.connectors, sameConnectors.map_contains]

theorem SameShape.place
    [Scalar α]
    (same : session.SameShape counterpart)
    (name : Located Name)
    (position : Vec3 α)
    (relativeTo : Option (Located Name)) :
    Outcome.Related SameShape (session.place name position relativeTo).outcome
      (counterpart.place name position relativeTo).outcome := by
  unfold Session.place
  cases relativeTo with
  | none =>
      simp only [Logged.outcome_bind, Logged.outcome_monadLift]
      exact (same.lookup name).bind fun alike => .ok (same.move alike _ _)
  | some origin =>
      simp only [Logged.outcome_bind, Logged.outcome_monadLift]
      refine (same.lookup name).bind fun alike => ?_
      exact (same.lookup origin).bind fun _ => .ok (same.move alike _ _)

theorem SameShape.connect
    [Scalar α]
    (same : session.SameShape counterpart)
    (moved movedConnector base baseConnector : Located Name) :
    Outcome.Related SameShape
      (session.connect moved movedConnector base baseConnector).outcome
      (counterpart.connect moved movedConnector base baseConnector).outcome := by
  unfold Session.connect
  simp only [Logged.outcome_bind, Logged.outcome_monadLift]
  refine (same.lookup moved).bind fun movedAlike => ?_
  refine (same.lookup base).bind fun baseAlike => ?_
  refine (connector movedAlike.shape moved movedConnector).bind fun _ => ?_
  refine (connector baseAlike.shape base baseConnector).bind fun _ => ?_
  exact .ok (same.move movedAlike _ _)

/-- A statement ends alike in sessions that differ in transforms, but for constructors. -/
theorem SameShape.step
    [Scalar α]
    (same : session.SameShape counterpart)
    (agree : first.Agrees second)
    (neverFails : first.NeverFails)
    (policy : RedeclarationPolicy)
    (statement : Located (Statement α)) :
    InStep second statement.span SameShape (session.step first policy statement).outcome
      (counterpart.step second policy statement).outcome := by
  obtain ⟨value, span⟩ := statement
  unfold Session.step
  simp only [Logged.outcome_bind, Logged.outcome_emit]
  cases value with
  | abbreviation short className =>
      exact .related (same.abbreviate agree short className)
  | declaration name className arguments =>
      exact same.declare agree neverFails policy span name className arguments
  | placement name position relativeTo =>
      exact .related (same.place name position.value relativeTo)
  | connection moved movedConnector base baseConnector =>
      exact .related (same.connect moved movedConnector base baseConnector)

end Steps

/-! ## Runs -/

/--
A run with the second registry stops with an error of a constructor, at a statement that
the run with the first registry has executed.
-/
def StopsInConstructor
    [Scalar α]
    (first second : Registry α)
    (policy : RedeclarationPolicy)
    (session counterpart : Session α)
    (statements : List (Located (Statement α)))
    (error : LoadError) :
    Prop :=
  error.kind = .initializationError ∧
    ∃ earlier statement later passed between,
      statements = earlier ++ statement :: later ∧
        (session.run first policy (earlier ++ [statement])).outcome = .ok passed ∧
        (counterpart.run second policy earlier).outcome = .ok between ∧
        (between.step second policy statement).outcome = .error error ∧
        error.span = statement.span

section Runs

variable [Scalar α] {session counterpart next other : Session α} {first second : Registry α}
  {policy : RedeclarationPolicy} {statement : Located (Statement α)}
  {rest : List (Located (Statement α))}

/-- A run that stops in a constructor after its first statement stops in one. -/
theorem StopsInConstructor.cons
    {error : LoadError}
    (succeeded : (session.step first policy statement).outcome = .ok next)
    (otherSucceeded : (counterpart.step second policy statement).outcome = .ok other)
    (stops : StopsInConstructor first second policy next other rest error) :
    StopsInConstructor first second policy session counterpart (statement :: rest) error := by
  obtain ⟨isConstructor, earlier, failing, later, passed, between, rfl, ran, otherRan, fails⟩ :=
    stops
  refine
    ⟨isConstructor, statement :: earlier, failing, later, passed, between, rfl, ?_, ?_, fails⟩
  · exact run_cons_eq_ok_iff.2 ⟨next, step_eq_ok_iff.1 succeeded, ran⟩
  · exact run_cons_eq_ok_iff.2 ⟨other, step_eq_ok_iff.1 otherSucceeded, otherRan⟩

/-- Two runs end alike, or the second one stops in a constructor. -/
theorem SameShape.run
    (agree : first.Agrees second)
    (neverFails : first.NeverFails)
    (policy : RedeclarationPolicy)
    (statements : List (Located (Statement α)))
    (same : session.SameShape counterpart) :
    Outcome.Related SameShape (session.run first policy statements).outcome
        (counterpart.run second policy statements).outcome ∨
      ¬second.NeverFails ∧
        ∃ error,
          (counterpart.run second policy statements).outcome = .error error ∧
            StopsInConstructor first second policy session counterpart statements error := by
  induction statements generalizing session counterpart with
  | nil =>
      exact Or.inl (.ok same)
  | cons statement rest inductionHypothesis =>
      have inStep := same.step agree neverFails policy statement
      simp only [Session.run, Logged.outcome_bind]
      generalize step : (session.step first policy statement).outcome = outcome at inStep ⊢
      generalize otherStep :
        (counterpart.step second policy statement).outcome = otherOutcome at inStep ⊢
      cases inStep with
      | related related =>
          cases related with
          | ok sameNext =>
              refine (inductionHypothesis sameNext).imp_right ?_
              rintro ⟨canFail, error, failed, stops⟩
              exact ⟨canFail, error, failed, stops.cons step otherStep⟩
          | error error =>
              exact Or.inl (.error error)
      | constructorFailed passed className reason canFail =>
          refine Or.inr ⟨canFail, _, rfl, rfl, [], statement, rest, passed, counterpart, rfl, ?_,
            rfl, otherStep, rfl⟩
          exact run_cons_eq_ok_iff.2 ⟨passed, step_eq_ok_iff.1 step, rfl⟩

end Runs

end Session

/-- Levels of sessions that differ in transforms only have the same names and classes. -/
theorem Session.SameShape.toLevel
    {session counterpart : Session α}
    (same : session.SameShape counterpart) :
    session.toLevel.SameNames counterpart.toLevel where
  entities := by
    have sameShapes := congrArg (List.map fun shape => (shape.1, shape.2.1)) same.entities
    rw [List.map_map, List.map_map] at sameShapes
    exact sameShapes
  bindings := same.names

/--
Where the classes of a level agree with probes that never fail, the level can fail in no
other way than its rehearsal with the probes, unless one of its constructors fails at a
statement that the rehearsal has executed. If it does not fail in the rehearsal either, both
levels have the same entities under the same names.
-/
theorem Level.ofStatements_rehearsed
    [Scalar α]
    {first second : Registry α}
    (agree : first.Agrees second)
    (neverFails : first.NeverFails)
    (policy : RedeclarationPolicy)
    (statements : List (Located (Statement α))) :
    (Outcome.Related SameNames (ofStatements first policy statements).outcome
        (ofStatements second policy statements).outcome ∨
      ∃ error,
        (ofStatements second policy statements).outcome = .error error ∧
          Session.StopsInConstructor first second policy .empty .empty statements error) ∧
      (second.NeverFails →
        Outcome.Related SameNames (ofStatements first policy statements).outcome
          (ofStatements second policy statements).outcome) := by
  have sameLevels : ∀ {session counterpart : Session α}, session.SameShape counterpart →
      Outcome.Related SameNames (.ok session.toLevel : Except LoadError (Level α))
        (.ok counterpart.toLevel) :=
    fun same => .ok same.toLevel
  rw [outcome_ofStatements, outcome_ofStatements]
  rcases Session.sameShape_empty.run agree neverFails policy statements with
    related | ⟨canFail, error, failed, stops⟩
  · exact ⟨Or.inl (related.bind sameLevels), fun _ => related.bind sameLevels⟩
  · refine ⟨Or.inr ⟨error, ?_, stops⟩, fun cannotFail => absurd cannotFail canFail⟩
    rw [failed]
    rfl

/-- Boxes with a lid, with or without a label, as a schema declares them. -/
def boxSchema : ClassSchema Float where
  name := ⟨"Box"⟩
  constructors := [[], [.string]]
  connectors := some [⟨⟨"lid"⟩, ⟨0, 0, 1⟩⟩]

/-- Boxes elsewhere than the declared ones and with other lids, which cannot be labelled. -/
def plainBox : EntityClass Float where
  name := ⟨"Box"⟩
  constructors :=
    [⟨[], fun _ =>
        .ok
          ⟨Transform.ofPosition ⟨4, 0, 0⟩,
            some (Table.ofList [(⟨"lid"⟩, Connector.ofPosition ⟨0, 2, 0⟩)])⟩⟩,
      ⟨[.string], fun _ => .error "no place for a label"⟩]

theorem boxSchema_agrees :
    (Registry.ofSchema [boxSchema]).Agrees (Registry.empty.register plainBox) := by
  refine Registry.agrees_empty.register rfl (.cons ⟨rfl, ?plain⟩ (.cons ⟨rfl, ?labelled⟩ .nil))
  case plain =>
    intro arguments entity counterpart _ built otherBuilt
    cases built
    cases otherBuilt
    exact Connectors.sameNames_ofList_singleton _ _ _
  case labelled =>
    intro arguments entity counterpart _ _ otherBuilt
    cases otherBuilt

/-- The declarations of a box without a label and of one with a label. -/
def twoBoxes : List (Located (Statement Float)) :=
  [.unplaced (.declaration (.unplaced ⟨"a"⟩) (.unplaced ⟨"Box"⟩) []),
    .unplaced
      (.declaration (.unplaced ⟨"b"⟩) (.unplaced ⟨"Box"⟩) [.unplaced (.string "red")])]

/-- The label stops the level and not its rehearsal. -/
theorem Level.ofStatements_rehearsed_boxes :
    ∃ (level : Level Float) (error : LoadError),
      (ofStatements (Registry.ofSchema [boxSchema]) .reject twoBoxes).outcome = .ok level ∧
        (ofStatements (Registry.empty.register plainBox) .reject twoBoxes).outcome =
          .error error ∧
        Session.StopsInConstructor (Registry.ofSchema [boxSchema])
          (Registry.empty.register plainBox) .reject .empty .empty twoBoxes error := by
  refine ⟨_, _, rfl, rfl, ?stops⟩
  case stops =>
    obtain ⟨related | ⟨error, failed, stops⟩, _⟩ :=
      ofStatements_rehearsed boxSchema_agrees (Registry.neverFails_ofSchema [boxSchema]) .reject
        twoBoxes
    · cases related
    · cases failed
      exact stops

end LevelScript
