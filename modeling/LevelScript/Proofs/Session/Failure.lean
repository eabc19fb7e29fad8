import LevelScript.Proofs.Session.Blame
import LevelScript.Proofs.Session.Effect

namespace LevelScript.Session

/-!
# What stops a run

A session knows from the statements that have run which names are declared and what
connectors their entities have. Hence a statement fails in it exactly if these statements
say so, and a run stops at the first statement that fails after those before it.
-/

open Program (Declares DeclaresEntity StandsFor FailsAfter NoneFails FailsFirst)

variable {α : Type}

/-! ## What a session knows of the statements -/

/-- The entity that a name stands for has the connectors that its declaration gave it. -/
def RecallsConnectors
    (registry : Registry α)
    (statements : List (Located (Statement α)))
    (session : Session α) :
    Prop :=
  ∀ name connectors,
    (session.entity? name).map PlacedEntity.connectors = some connectors ↔
      ∃ entity, StandsFor registry statements name entity ∧ entity.connectors = connectors

theorem recallsConnectors_empty
    (registry : Registry α) :
    RecallsConnectors registry [] (empty : Session α) := by
  intro name connectors
  constructor
  · intro recalled
    cases recalled
  · rintro ⟨entity, ⟨earlier, statement, later, isSplit, _⟩, _⟩
    simp at isSplit

section Steps

variable {registry : Registry α} {policy : RedeclarationPolicy}
  {statements : List (Located (Statement α))} {statement : Located (Statement α)}
  {session next : Session α}

/-- What keeps names and connectors as they are keeps what is known of them. -/
theorem RecallsConnectors.of_eq
    (recalls : RecallsConnectors registry statements session)
    (declaresNone : statement.declaredName? = none)
    (names : next.names = session.names)
    (connectors :
      next.entities.map PlacedEntity.connectors =
        session.entities.map PlacedEntity.connectors) :
    RecallsConnectors registry (statements ++ [statement]) next := by
  intro name sockets
  have viewed : ∀ between : Session α,
      (between.entity? name).map PlacedEntity.connectors =
        (between.names.get? name).bind ((between.entities.map PlacedEntity.connectors)[·]?) := by
    intro between
    simp only [entity?, toLevel, Level.find?, Level.findIndex?, Option.map_bind, List.getElem?_map,
      Function.comp_def]
  have standsFor : ∀ entity,
      StandsFor registry (statements ++ [statement]) name entity ↔
        StandsFor registry statements name entity := by
    intro entity
    rw [Program.standsFor_concat_iff]
    constructor
    · rintro (declares | ⟨_, standsFor⟩)
      · rw [declares.declaredName?_eq] at declaresNone
        cases declaresNone
      · exact standsFor
    · intro standsFor
      exact Or.inr ⟨by simp [declaresNone], standsFor⟩
  rw [viewed, names, connectors, ← viewed, recalls name sockets]
  simp only [standsFor]

/-- A declared name stands for the new entity, and no other name is affected. -/
theorem Tracks.entity?_append
    (tracks : Tracks statements session)
    (placed : PlacedEntity α)
    (name : Name) :
    (session.append placed).entity? name =
      if name = placed.name then some placed else session.entity? name := by
  simp only [entity?, toLevel, Level.find?, Level.findIndex?, append]
  split
  · rename_i same
    simp [same]
  · rename_i different
    rw [Table.get?_insert_of_ne _ _ different]
    cases stored : session.names.get? name with
    | none =>
        rfl
    | some index =>
        obtain ⟨found, isFound⟩ := tracks.exists_entity stored
        have inside := (List.getElem?_eq_some_iff.1 isFound).1
        exact List.getElem?_append_left inside

/-- A class is written out as the statements that have run say. -/
theorem Tracks.expandClass_eq
    (tracks : Tracks statements session)
    (className : Name) :
    session.expandClass className = Program.classAfter statements className := by
  rw [expandClass, tracks.aliases, Program.classAfter]

/-- A declaration gives its name the connectors of the entity that is built. -/
theorem RecallsConnectors.declaration
    (recalls : RecallsConnectors registry statements session)
    (tracks : Tracks statements session)
    {name className : Located Name}
    {arguments : List (Located (Literal α))}
    {span : Span}
    {entity : Entity α}
    (built :
      (registry.construct (session.expandClass className.value) (arguments.map Located.value)
        span).outcome = .ok entity) :
    RecallsConnectors registry (statements ++ [⟨.declaration name className arguments, span⟩])
      (session.append ⟨name.value, session.expandClass className.value, entity⟩) := by
  intro other sockets
  rw [tracks.entity?_append]
  simp only [Program.standsFor_concat_iff]
  by_cases same : other = name.value
  · subst same
    rw [if_pos rfl, Option.map_some, Option.some.injEq]
    constructor
    · rintro rfl
      rw [tracks.expandClass_eq, Registry.construct_eq_ok_iff_builds] at built
      exact ⟨entity, Or.inl ⟨rfl, built⟩, rfl⟩
    · rintro ⟨other, ⟨_, builds⟩ | ⟨notDeclared, _⟩, rfl⟩
      · rw [← tracks.expandClass_eq] at builds
        have otherBuilt :
            (registry.construct (session.expandClass className.value)
              (arguments.map Located.value) span).outcome = .ok other :=
          Registry.construct_eq_ok_iff_builds.2 builds
        rw [built] at otherBuilt
        cases otherBuilt
        rfl
      · exact (notDeclared rfl).elim
  · rw [if_neg same, recalls other sockets]
    refine exists_congr fun entity => and_congr_left fun _ => ?_
    constructor
    · intro standsFor
      refine Or.inr ⟨?_, standsFor⟩
      intro isDeclared
      exact same (Option.some.inj isDeclared).symm
    · rintro (⟨isDeclared, _⟩ | ⟨_, standsFor⟩)
      · exact (same isDeclared.symm).elim
      · exact standsFor

/-- Each statement that succeeds keeps what is known of connectors. -/
theorem RecallsConnectors.step
    [Scalar α]
    (recalls : RecallsConnectors registry statements session)
    (tracks : Tracks statements session)
    (succeeds : Succeeds registry policy session statement next) :
    RecallsConnectors registry (statements ++ [statement]) next := by
  have moved : ∀ {name : Located Name} {found : Found α} (transform : Transform α),
      session.lookup name = .ok found →
        (session.move found transform).entities.map PlacedEntity.connectors =
          session.entities.map PlacedEntity.connectors :=
    fun transform isFound => map_entities_move isFound transform _ fun _ _ => rfl
  cases succeeds with
  | abbreviation _ =>
      exact recalls.of_eq rfl rfl rfl
  | declaration _ built =>
      exact recalls.declaration tracks built
  | absolute isFound =>
      exact recalls.of_eq rfl rfl (moved _ isFound)
  | relative isFound _ =>
      exact recalls.of_eq rfl rfl (moved _ isFound)
  | connection isMoved _ _ _ =>
      exact recalls.of_eq rfl rfl (moved _ isMoved)

end Steps

/-! ## One operation at a time -/

section Failures

variable {registry : Registry α} {policy : RedeclarationPolicy}
  {statements : List (Located (Statement α))} {session : Session α} {error : LoadError}

/-- A name is in the table exactly if a statement declares it. -/
theorem Tracks.isSome_iff_declares
    (tracks : Tracks statements session)
    (name : Name) :
    (session.names.get? name).isSome ↔ Declares statements name := by
  rw [tracks.isSome_iff, Program.declares_iff_mem, ← Program.map_fst_declarationsAfter []]
  rfl

theorem Tracks.get?_eq_none_iff
    (tracks : Tracks statements session)
    {name : Name} :
    session.names.get? name = none ↔ ¬Declares statements name := by
  rw [← tracks.isSome_iff_declares, Option.not_isSome_iff_eq_none]

/-- Looking up a name fails exactly if no statement declares it. -/
theorem Tracks.lookup_eq_error_iff
    (tracks : Tracks statements session)
    {name : Located Name} :
    session.lookup name = .error error ↔
      ¬Declares statements name.value ∧ ⟨.unknownEntity name.value, name.span⟩ = error := by
  rw [← tracks.isSome_iff_declares]
  unfold lookup
  cases stored : session.names.get? name.value with
  | none =>
      simp
  | some index =>
      obtain ⟨placed, isPlaced⟩ := tracks.exists_entity stored
      simp [isPlaced]

/-- Looking up a name succeeds exactly if a statement declares it. -/
theorem Tracks.exists_lookup_iff
    (tracks : Tracks statements session)
    {name : Located Name} :
    (∃ found, session.lookup name = .ok found) ↔ Declares statements name.value := by
  rw [← tracks.isSome_iff_declares]
  constructor
  · rintro ⟨found, isFound⟩
    rw [(lookup_eq_ok_iff.1 isFound).1]
    rfl
  · intro declares
    obtain ⟨index, stored⟩ := Option.isSome_iff_exists.1 declares
    obtain ⟨placed, isPlaced⟩ := tracks.exists_entity stored
    exact ⟨⟨index, placed⟩, lookup_eq_ok_iff.2 ⟨stored, isPlaced⟩⟩

/-- What a name stands for is known from the statements, as far as connectors go. -/
theorem RecallsConnectors.exists_standsFor
    (recalls : RecallsConnectors registry statements session)
    {name : Located Name}
    {found : Found α}
    (isFound : session.lookup name = .ok found) :
    ∃ entity,
      StandsFor registry statements name.value entity ∧
        entity.connectors = found.placed.connectors := by
  rw [← recalls, entity?_of_lookup isFound]
  rfl

theorem RecallsConnectors.exists_lookup
    (recalls : RecallsConnectors registry statements session)
    {name : Located Name}
    {entity : Entity α}
    (standsFor : StandsFor registry statements name.value entity) :
    ∃ found, session.lookup name = .ok found ∧ found.placed.connectors = entity.connectors := by
  have recalled := (recalls name.value entity.connectors).2 ⟨entity, standsFor, rfl⟩
  obtain ⟨placed, isEntity, connectors⟩ := Option.map_eq_some_iff.1 recalled
  obtain ⟨index, stored, isPlaced⟩ := Option.bind_eq_some_iff.1 isEntity
  exact ⟨⟨index, placed⟩, lookup_eq_ok_iff.2 ⟨stored, isPlaced⟩, connectors⟩

/-- A connector is not found exactly if the entity lacks it. -/
theorem connector_eq_error_iff
    {placed : PlacedEntity α}
    {entity name : Located Name} :
    connector placed entity name = .error error ↔
      LacksConnector placed.connectors entity name error := by
  constructor
  · intro failed
    unfold connector at failed
    cases isConnected : placed.connectors with
    | none =>
        rw [isConnected] at failed
        cases failed
        exact .noConnectors rfl
    | some sockets =>
        simp only [isConnected] at failed
        cases isSocket : sockets.get? name.value with
        | none =>
            rw [isSocket] at failed
            cases failed
            exact .noConnector rfl isSocket
        | some socket =>
            rw [isSocket] at failed
            cases failed
  · intro lacks
    unfold connector
    cases lacks with
    | noConnectors isNone =>
        rw [isNone]
    | noConnector isSome notNamed =>
        simp only [isSome, notNamed]

theorem abbreviate_eq_error_iff
    {short className : Located Name} :
    (session.abbreviate registry short className).outcome = .error error ↔
      ∃ kind, registry.Unresolved className.value className.span kind error := by
  rw [← Registry.resolve_eq_error_iff, outcome_abbreviate]
  simp [Outcome.bind_eq_error_iff]

theorem checkName_eq_error_iff
    {name : Located Name} :
    (checkName policy session name).outcome = .error error ↔
      policy = .reject ∧
        (session.names.get? name.value).isSome ∧
        ⟨.alreadyDeclared name.value, name.span⟩ = error := by
  unfold checkName Table.contains
  cases session.names.get? name.value <;> cases policy <;> simp

theorem declare_eq_error_iff
    {span : Span}
    {name className : Located Name}
    {arguments : List (Located (Literal α))} :
    (session.declare registry policy span name className arguments).outcome = .error error ↔
      (checkName policy session name).outcome = .error error ∨
        (policy = .reject → session.names.get? name.value = none) ∧
          (registry.construct (session.expandClass className.value)
            (arguments.map Located.value) span).outcome = .error error := by
  rw [← checkName_eq_ok_iff]
  unfold declare
  simp only [Logged.outcome_bind, Logged.outcome_emit, Logged.outcome_pure,
    Outcome.bind_eq_error_iff, reduceCtorEq, and_false, exists_false, or_false,
    Unique.exists_iff]

theorem place_absolute_eq_error_iff
    [Scalar α]
    {name : Located Name}
    {position : Vec3 α} :
    (session.place name position none).outcome = .error error ↔
      session.lookup name = .error error := by
  unfold place
  simp [Outcome.bind_eq_error_iff]

theorem place_relative_eq_error_iff
    [Scalar α]
    {name origin : Located Name}
    {position : Vec3 α} :
    (session.place name position (some origin)).outcome = .error error ↔
      session.lookup name = .error error ∨
        (∃ found, session.lookup name = .ok found) ∧ session.lookup origin = .error error := by
  unfold place
  simp [Outcome.bind_eq_error_iff]

/-- A connection fails at the first thing that is not found. -/
theorem connect_eq_error_iff
    [Scalar α]
    {moved movedConnector base baseConnector : Located Name} :
    (session.connect moved movedConnector base baseConnector).outcome = .error error ↔
      session.lookup moved = .error error ∨
        ∃ movedEntity,
          session.lookup moved = .ok movedEntity ∧
            (session.lookup base = .error error ∨
              ∃ baseEntity,
                session.lookup base = .ok baseEntity ∧
                  (connector movedEntity.placed moved movedConnector = .error error ∨
                    (∃ socket, connector movedEntity.placed moved movedConnector = .ok socket) ∧
                      connector baseEntity.placed base baseConnector = .error error)) := by
  unfold connect
  simp [Outcome.bind_eq_error_iff]

end Failures

/-! ## Statements and runs -/

section Runs

variable {registry : Registry α} {policy : RedeclarationPolicy}
  {statements : List (Located (Statement α))} {session next : Session α} {error : LoadError}

theorem abbreviate_fails_iff
    {short className : Located Name}
    {span : Span} :
    (session.abbreviate registry short className).outcome = .error error ↔
      ∃ kind,
        FailsAfter registry policy statements ⟨.abbreviation short className, span⟩ kind error := by
  rw [abbreviate_eq_error_iff]
  constructor
  · rintro ⟨kind, unresolved⟩
    exact ⟨kind, .abbreviation unresolved⟩
  · rintro ⟨kind, fails⟩
    cases fails with
    | abbreviation unresolved =>
        exact ⟨kind, unresolved⟩

theorem Tracks.declare_fails_iff
    (tracks : Tracks statements session)
    {name className : Located Name}
    {arguments : List (Located (Literal α))}
    {span : Span} :
    (session.declare registry policy span name className arguments).outcome = .error error ↔
      ∃ kind,
        FailsAfter registry policy statements ⟨.declaration name className arguments, span⟩
          kind error := by
  have fresh_iff :
      (policy = .reject → session.names.get? name.value = none) ↔
        (policy = .reject → ¬Declares statements name.value) :=
    imp_congr_right fun _ => tracks.get?_eq_none_iff
  rw [declare_eq_error_iff, checkName_eq_error_iff, tracks.isSome_iff_declares, fresh_iff,
    tracks.expandClass_eq, Registry.construct_eq_error_iff]
  constructor
  · rintro (⟨rejects, declares, rfl⟩ | ⟨fresh, kind, unbuilt⟩)
    · exact ⟨_, .redeclared rejects declares⟩
    · exact ⟨kind, .unbuilt fresh unbuilt⟩
  · rintro ⟨kind, fails⟩
    cases fails with
    | redeclared rejects declares =>
        exact Or.inl ⟨rejects, declares, rfl⟩
    | unbuilt fresh unbuilt =>
        exact Or.inr ⟨fresh, kind, unbuilt⟩

variable [Scalar α]

theorem Tracks.place_fails_iff
    (tracks : Tracks statements session)
    {name : Located Name}
    {position : Located (Vec3 α)}
    {relativeTo : Option (Located Name)}
    {span : Span} :
    (session.place name position.value relativeTo).outcome = .error error ↔
      ∃ kind,
        FailsAfter registry policy statements ⟨.placement name position relativeTo, span⟩
          kind error := by
  cases relativeTo with
  | none =>
      rw [place_absolute_eq_error_iff, tracks.lookup_eq_error_iff]
      constructor
      · rintro ⟨notDeclared, rfl⟩
        exact ⟨_, .unknownPlaced notDeclared⟩
      · rintro ⟨kind, fails⟩
        cases fails with
        | unknownPlaced notDeclared =>
            exact ⟨notDeclared, rfl⟩
  | some origin =>
      rw [place_relative_eq_error_iff, tracks.exists_lookup_iff, tracks.lookup_eq_error_iff,
        tracks.lookup_eq_error_iff]
      constructor
      · rintro (⟨notDeclared, rfl⟩ | ⟨declares, notDeclared, rfl⟩)
        · exact ⟨_, .unknownPlaced notDeclared⟩
        · exact ⟨_, .unknownOrigin declares notDeclared⟩
      · rintro ⟨kind, fails⟩
        cases fails with
        | unknownPlaced notDeclared =>
            exact Or.inl ⟨notDeclared, rfl⟩
        | unknownOrigin declares notDeclared =>
            exact Or.inr ⟨declares, notDeclared, rfl⟩

theorem Tracks.connect_fails_iff
    (tracks : Tracks statements session)
    (recalls : RecallsConnectors registry statements session)
    {moved movedConnector base baseConnector : Located Name}
    {span : Span} :
    (session.connect moved movedConnector base baseConnector).outcome = .error error ↔
      ∃ kind,
        FailsAfter registry policy statements
          ⟨.connection moved movedConnector base baseConnector, span⟩ kind error := by
  rw [connect_eq_error_iff]
  constructor
  · rintro (noMoved | ⟨movedEntity, isMoved, noBase | ⟨baseEntity, isBase, lacks⟩⟩)
    · obtain ⟨notDeclared, rfl⟩ := tracks.lookup_eq_error_iff.1 noMoved
      exact ⟨_, .unknownMoved notDeclared⟩
    · obtain ⟨notDeclared, rfl⟩ := tracks.lookup_eq_error_iff.1 noBase
      exact ⟨_, .unknownBase (tracks.exists_lookup_iff.1 ⟨_, isMoved⟩) notDeclared⟩
    · obtain ⟨entity, movedStands, movedConnectors⟩ := recalls.exists_standsFor isMoved
      obtain ⟨reference, baseStands, baseConnectors⟩ := recalls.exists_standsFor isBase
      rcases lacks with movedLacks | ⟨⟨socket, isSocket⟩, baseLacks⟩
      · rw [connector_eq_error_iff, ← movedConnectors] at movedLacks
        have declares := tracks.exists_lookup_iff.1 ⟨_, isBase⟩
        exact ⟨_, .movedLacks movedStands declares movedLacks⟩
      · rw [connector_eq_error_iff, ← baseConnectors] at baseLacks
        rw [connector_eq_ok_iff, PlacedEntity.socket?, ← movedConnectors] at isSocket
        obtain ⟨sockets, isConnected, isSocket⟩ := Option.bind_eq_some_iff.1 isSocket
        exact ⟨_, .baseLacks movedStands isConnected isSocket baseStands baseLacks⟩
  · rintro ⟨kind, fails⟩
    cases fails with
    | unknownMoved notDeclared =>
        exact Or.inl (tracks.lookup_eq_error_iff.2 ⟨notDeclared, rfl⟩)
    | unknownBase declares notDeclared =>
        obtain ⟨movedEntity, isMoved⟩ := tracks.exists_lookup_iff.2 declares
        have noBase := tracks.lookup_eq_error_iff.2 ⟨notDeclared, rfl⟩
        exact Or.inr ⟨movedEntity, isMoved, Or.inl noBase⟩
    | movedLacks movedStands declares lacks =>
        obtain ⟨movedEntity, isMoved, movedConnectors⟩ := recalls.exists_lookup movedStands
        obtain ⟨baseEntity, isBase⟩ := tracks.exists_lookup_iff.2 declares
        rw [← movedConnectors, ← connector_eq_error_iff] at lacks
        exact Or.inr ⟨movedEntity, isMoved, Or.inr ⟨baseEntity, isBase, Or.inl lacks⟩⟩
    | baseLacks movedStands isConnected isSocket baseStands lacks =>
        obtain ⟨movedEntity, isMoved, movedConnectors⟩ := recalls.exists_lookup movedStands
        obtain ⟨baseEntity, isBase, baseConnectors⟩ := recalls.exists_lookup baseStands
        rw [← baseConnectors, ← connector_eq_error_iff] at lacks
        have hasSocket : ∃ socket,
            connector movedEntity.placed moved movedConnector = .ok socket := by
          refine ⟨_, connector_eq_ok_iff.2 (Option.bind_eq_some_iff.2 ⟨_, ?_, isSocket⟩)⟩
          rw [movedConnectors, isConnected]
        exact
          Or.inr
            ⟨movedEntity, isMoved, Or.inr ⟨baseEntity, isBase, Or.inr ⟨hasSocket, lacks⟩⟩⟩

/-- A statement fails in a session exactly if it fails after the statements that have run. -/
theorem Tracks.step_fails_iff
    (tracks : Tracks statements session)
    (recalls : RecallsConnectors registry statements session)
    {statement : Located (Statement α)} :
    (session.step registry policy statement).outcome = .error error ↔
      ∃ kind, FailsAfter registry policy statements statement kind error := by
  obtain ⟨value, span⟩ := statement
  unfold Session.step
  simp only [Logged.outcome_bind, Logged.outcome_emit]
  cases value with
  | abbreviation short className =>
      exact abbreviate_fails_iff
  | declaration name className arguments =>
      exact tracks.declare_fails_iff
  | placement name position relativeTo =>
      exact tracks.place_fails_iff
  | connection moved movedConnector base baseConnector =>
      exact tracks.connect_fails_iff recalls

/-- A run recalls the connectors of all entities, however many statements there are. -/
theorem RecallsConnectors.run
    {earlier : List (Located (Statement α))}
    (tracks : Tracks earlier session)
    (recalls : RecallsConnectors registry earlier session)
    (ran : (session.run registry policy statements).outcome = .ok next) :
    RecallsConnectors registry (earlier ++ statements) next := by
  induction statements generalizing session earlier with
  | nil =>
      cases ran
      simpa using recalls
  | cons statement rest inductionHypothesis =>
      obtain ⟨between, succeeds, ranRest⟩ := run_cons_eq_ok_iff.1 ran
      simpa using
        inductionHypothesis (tracks.step succeeds) (recalls.step tracks succeeds) ranRest

/-- A run stops where the statements before succeed and a statement fails. -/
theorem run_eq_error_iff :
    (session.run registry policy statements).outcome = .error error ↔
      ∃ earlier statement later between,
        statements = earlier ++ statement :: later ∧
          (session.run registry policy earlier).outcome = .ok between ∧
          (between.step registry policy statement).outcome = .error error := by
  induction statements generalizing session with
  | nil =>
      simp [run]
  | cons first rest inductionHypothesis =>
      rw [run, Logged.outcome_bind, Outcome.bind_eq_error_iff]
      constructor
      · rintro (failed | ⟨next, stepped, failed⟩)
        · exact ⟨[], first, rest, session, rfl, rfl, failed⟩
        · obtain ⟨earlier, statement, later, between, rfl, ran, failed⟩ :=
            inductionHypothesis.1 failed
          have ranBoth := run_cons_eq_ok_iff.2 ⟨next, step_eq_ok_iff.1 stepped, ran⟩
          exact ⟨first :: earlier, statement, later, between, rfl, ranBoth, failed⟩
      · rintro ⟨earlier, statement, later, between, isSplit, ran, failed⟩
        cases earlier with
        | nil =>
            cases isSplit
            cases ran
            exact Or.inl failed
        | cons _ earlier =>
            cases isSplit
            obtain ⟨next, succeeds, ranRest⟩ := run_cons_eq_ok_iff.1 ran
            have failedRest :=
              inductionHypothesis.2 ⟨earlier, statement, later, between, rfl, ranRest, failed⟩
            exact Or.inr ⟨next, step_eq_ok_iff.2 succeeds, failedRest⟩

/-- After a run a statement fails exactly if it fails after the statements of the run. -/
theorem step_fails_iff_of_run
    (ran : (empty.run registry policy statements).outcome = .ok session)
    {statement : Located (Statement α)} :
    (session.step registry policy statement).outcome = .error error ↔
      ∃ kind, FailsAfter registry policy statements statement kind error := by
  have tracks : Tracks statements session := tracks_empty.run ran
  have recalls : RecallsConnectors registry statements session :=
    (recallsConnectors_empty registry).run tracks_empty ran
  exact tracks.step_fails_iff recalls

/-- Statements run without an error exactly if none of them fails after those before it. -/
theorem exists_run_iff_noneFails :
    (∃ between, (empty.run registry policy statements).outcome = .ok between) ↔
      NoneFails registry policy statements := by
  constructor
  · rintro ⟨next, ran⟩ earlier statement later kind error rfl fails
    obtain ⟨between, ranEarlier, ranRest⟩ := run_append_eq_ok_iff.1 ran
    obtain ⟨_, succeeds, _⟩ := run_cons_eq_ok_iff.1 ranRest
    have failed := (step_fails_iff_of_run ranEarlier).2 ⟨kind, fails⟩
    rw [step_eq_ok_iff.2 succeeds] at failed
    cases failed
  · intro noneFails
    cases outcome : (empty.run registry policy statements).outcome with
    | ok next =>
        exact ⟨next, rfl⟩
    | error error =>
        obtain ⟨earlier, statement, later, between, isSplit, ran, failed⟩ :=
          run_eq_error_iff.1 outcome
        obtain ⟨kind, fails⟩ := (step_fails_iff_of_run ran).1 failed
        exact (noneFails earlier statement later kind error isSplit fails).elim

/-- A run stops at the first statement that fails after those before it. -/
theorem run_empty_eq_error_iff :
    (empty.run registry policy statements).outcome = .error error ↔
      ∃ statement kind, FailsFirst registry policy statements statement kind error := by
  rw [run_eq_error_iff]
  constructor
  · rintro ⟨earlier, statement, later, between, isSplit, ran, failed⟩
    obtain ⟨kind, fails⟩ := (step_fails_iff_of_run ran).1 failed
    have noneFails := exists_run_iff_noneFails.1 ⟨between, ran⟩
    exact ⟨statement, kind, earlier, later, isSplit, noneFails, fails⟩
  · rintro ⟨statement, kind, earlier, later, isSplit, noneFails, fails⟩
    obtain ⟨between, ran⟩ := exists_run_iff_noneFails.2 noneFails
    have failed := (step_fails_iff_of_run ran).2 ⟨kind, fails⟩
    exact ⟨earlier, statement, later, between, isSplit, ran, failed⟩

end Runs

end LevelScript.Session
