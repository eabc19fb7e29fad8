import LevelScript.Proofs.Outcome
import LevelScript.Session

namespace LevelScript.Session

/-!
# What a statement does

A statement that succeeds names a class, adds an entity or moves one. The relation `Succeeds`
says what each kind of statement asks of the session it is run in, and what it leaves.
-/

variable {α : Type} {session next : Session α}

/-- A statement succeeds in a session and leaves another one. -/
inductive Succeeds
    [Scalar α]
    (registry : Registry α)
    (policy : RedeclarationPolicy)
    (session : Session α) :
    Located (Statement α) → Session α → Prop where
  | abbreviation
      {short className : Located Name}
      {span : Span}
      {entityClass : EntityClass α} :
      registry.resolve className.value className.span = .ok entityClass →
      Succeeds registry policy session ⟨.abbreviation short className, span⟩
        { session with aliases := session.aliases.insert short.value className.value }
  | declaration
      {name className : Located Name}
      {arguments : List (Located (Literal α))}
      {span : Span}
      {entity : Entity α} :
      (policy = .reject → session.names.get? name.value = none) →
      (registry.construct (session.expandClass className.value)
          (arguments.map Located.value) span).outcome = .ok entity →
      Succeeds registry policy session ⟨.declaration name className arguments, span⟩
        (session.append ⟨name.value, session.expandClass className.value, entity⟩)
  | absolute
      {name : Located Name}
      {position : Located (Vec3 α)}
      {span : Span}
      {found : Found α} :
      session.lookup name = .ok found →
      Succeeds registry policy session ⟨.placement name position none, span⟩
        (session.move found (found.placed.transform.withPosition position.value))
  | relative
      {name origin : Located Name}
      {position : Located (Vec3 α)}
      {span : Span}
      {found reference : Found α} :
      session.lookup name = .ok found →
      session.lookup origin = .ok reference →
      Succeeds registry policy session ⟨.placement name position (some origin), span⟩
        (session.move found
          (found.placed.transform.withPosition
            (position.value + reference.placed.position)))
  | connection
      {moved movedConnector base baseConnector : Located Name}
      {span : Span}
      {movedEntity baseEntity : Found α}
      {movedSocket baseSocket : Connector α} :
      session.lookup moved = .ok movedEntity →
      session.lookup base = .ok baseEntity →
      connector movedEntity.placed moved movedConnector = .ok movedSocket →
      connector baseEntity.placed base baseConnector = .ok baseSocket →
      Succeeds registry policy session
        ⟨.connection moved movedConnector base baseConnector, span⟩
        (session.move movedEntity
          (Connector.matedTransform baseEntity.placed.transform baseSocket movedSocket))

/-! ## One operation at a time -/

/-- A name stands for the entity at the index that the name table holds for it. -/
theorem lookup_eq_ok_iff
    {name : Located Name}
    {found : Found α} :
    session.lookup name = .ok found ↔
      session.names.get? name.value = some found.index ∧
        session.entities[found.index]? = some found.placed := by
  obtain ⟨foundIndex, placed⟩ := found
  unfold lookup
  cases session.names.get? name.value with
  | none =>
      simp
  | some index =>
      dsimp only
      rw [Option.some.injEq]
      by_cases sameIndex : index = foundIndex
      · subst sameIndex
        cases session.entities[index]? <;> simp
      · cases session.entities[index]? <;> simp [sameIndex]

/-- An abbreviation that names a class is stored, whether it is a new one or not. -/
theorem outcome_abbreviate
    (registry : Registry α)
    (session : Session α)
    (short className : Located Name) :
    (session.abbreviate registry short className).outcome =
      registry.resolve className.value className.span >>= fun _ =>
        .ok { session with aliases := session.aliases.insert short.value className.value } := by
  unfold abbreviate
  simp only [Logged.outcome_bind, Logged.outcome_monadLift]
  cases session.aliases.get? short.value <;> rfl

theorem abbreviate_eq_ok_iff
    {registry : Registry α}
    {short className : Located Name} :
    (session.abbreviate registry short className).outcome = .ok next ↔
      (∃ entityClass,
        registry.resolve className.value className.span = .ok entityClass) ∧
      { session with aliases := session.aliases.insert short.value className.value } =
        next := by
  rw [outcome_abbreviate]
  simp [Outcome.bind_eq_ok_iff]

theorem checkName_eq_ok_iff
    {policy : RedeclarationPolicy}
    {name : Located Name} :
    (checkName policy session name).outcome = .ok () ↔
      (policy = .reject → session.names.get? name.value = none) := by
  unfold checkName Table.contains
  cases session.names.get? name.value <;> cases policy <;> simp

/-- Whether a name may be declared depends on the name table only. -/
theorem checkName_congr
    {session counterpart : Session α}
    (sameNames : session.names = counterpart.names)
    (policy : RedeclarationPolicy)
    (name : Located Name) :
    checkName policy session name = checkName policy counterpart name := by
  unfold checkName
  rw [sameNames]

/-- What class a name stands for depends on the alias table only. -/
theorem expandClass_congr
    {session counterpart : Session α}
    (sameAliases : session.aliases = counterpart.aliases)
    (className : Name) :
    session.expandClass className = counterpart.expandClass className := by
  unfold expandClass
  rw [sameAliases]

theorem declare_eq_ok_iff
    {registry : Registry α}
    {policy : RedeclarationPolicy}
    {span : Span}
    {name className : Located Name}
    {arguments : List (Located (Literal α))} :
    (session.declare registry policy span name className arguments).outcome = .ok next ↔
      (policy = .reject → session.names.get? name.value = none) ∧
        ∃ entity,
          (registry.construct (session.expandClass className.value)
              (arguments.map Located.value) span).outcome = .ok entity ∧
            session.append ⟨name.value, session.expandClass className.value, entity⟩ =
              next := by
  unfold declare
  simp only [Logged.outcome_bind, Outcome.bind_eq_ok_iff, Logged.outcome_emit,
    Logged.outcome_pure, Except.ok.injEq]
  constructor
  · rintro ⟨_, checked, entity, built, _, _, same⟩
    exact ⟨checkName_eq_ok_iff.1 checked, entity, built, same⟩
  · rintro ⟨fresh, entity, built, same⟩
    exact ⟨(), checkName_eq_ok_iff.2 fresh, entity, built, (), True.intro, same⟩

theorem place_absolute_eq_ok_iff
    [Scalar α]
    {name : Located Name}
    {position : Vec3 α} :
    (session.place name position none).outcome = .ok next ↔
      ∃ found,
        session.lookup name = .ok found ∧
          session.move found (found.placed.transform.withPosition position) = next := by
  unfold place
  simp [Outcome.bind_eq_ok_iff]

theorem place_relative_eq_ok_iff
    [Scalar α]
    {name origin : Located Name}
    {position : Vec3 α} :
    (session.place name position (some origin)).outcome = .ok next ↔
      ∃ found reference,
        session.lookup name = .ok found ∧
          session.lookup origin = .ok reference ∧
          session.move found
              (found.placed.transform.withPosition
                (position + reference.placed.position)) =
            next := by
  unfold place
  simp [Outcome.bind_eq_ok_iff]

theorem connect_eq_ok_iff
    [Scalar α]
    {moved movedConnector base baseConnector : Located Name} :
    (session.connect moved movedConnector base baseConnector).outcome = .ok next ↔
      ∃ movedEntity baseEntity movedSocket baseSocket,
        session.lookup moved = .ok movedEntity ∧
          session.lookup base = .ok baseEntity ∧
          connector movedEntity.placed moved movedConnector = .ok movedSocket ∧
          connector baseEntity.placed base baseConnector = .ok baseSocket ∧
          session.move movedEntity
              (Connector.matedTransform baseEntity.placed.transform baseSocket movedSocket) =
            next := by
  unfold connect
  simp [Outcome.bind_eq_ok_iff]

/-! ## Statements -/

/-- A statement succeeds exactly if the session meets what its kind asks for. -/
theorem step_eq_ok_iff
    [Scalar α]
    {registry : Registry α}
    {policy : RedeclarationPolicy}
    {statement : Located (Statement α)} :
    (session.step registry policy statement).outcome = .ok next ↔
      Succeeds registry policy session statement next := by
  obtain ⟨value, span⟩ := statement
  unfold step
  simp only [Logged.outcome_bind, Logged.outcome_emit]
  cases value with
  | abbreviation short className =>
      constructor
      · intro succeeded
        obtain ⟨⟨entityClass, resolved⟩, rfl⟩ := abbreviate_eq_ok_iff.1 succeeded
        exact .abbreviation resolved
      · intro succeeds
        cases succeeds with
        | abbreviation resolved =>
            exact abbreviate_eq_ok_iff.2 ⟨⟨_, resolved⟩, rfl⟩
  | declaration name className arguments =>
      constructor
      · intro succeeded
        obtain ⟨fresh, entity, built, rfl⟩ := declare_eq_ok_iff.1 succeeded
        exact .declaration fresh built
      · intro succeeds
        cases succeeds with
        | declaration fresh built =>
            exact declare_eq_ok_iff.2 ⟨fresh, _, built, rfl⟩
  | placement name position relativeTo =>
      cases relativeTo with
      | none =>
          constructor
          · intro succeeded
            obtain ⟨found, isFound, rfl⟩ := place_absolute_eq_ok_iff.1 succeeded
            exact .absolute isFound
          · intro succeeds
            cases succeeds with
            | absolute isFound =>
                exact place_absolute_eq_ok_iff.2 ⟨_, isFound, rfl⟩
      | some origin =>
          constructor
          · intro succeeded
            obtain ⟨found, reference, isFound, isReference, rfl⟩ :=
              place_relative_eq_ok_iff.1 succeeded
            exact .relative isFound isReference
          · intro succeeds
            cases succeeds with
            | relative isFound isReference =>
                exact place_relative_eq_ok_iff.2 ⟨_, _, isFound, isReference, rfl⟩
  | connection moved movedConnector base baseConnector =>
      constructor
      · intro succeeded
        obtain ⟨movedEntity, baseEntity, movedSocket, baseSocket, isMoved, isBase,
          isMovedSocket, isBaseSocket, rfl⟩ := connect_eq_ok_iff.1 succeeded
        exact .connection isMoved isBase isMovedSocket isBaseSocket
      · intro succeeds
        cases succeeds with
        | connection isMoved isBase isMovedSocket isBaseSocket =>
            exact
              connect_eq_ok_iff.2
                ⟨_, _, _, _, isMoved, isBase, isMovedSocket, isBaseSocket, rfl⟩

/-- A run of statements succeeds exactly if the first one does, and then the others. -/
theorem run_cons_eq_ok_iff
    [Scalar α]
    {registry : Registry α}
    {policy : RedeclarationPolicy}
    {statement : Located (Statement α)}
    {rest : List (Located (Statement α))} :
    (session.run registry policy (statement :: rest)).outcome = .ok next ↔
      ∃ between,
        Succeeds registry policy session statement between ∧
          (between.run registry policy rest).outcome = .ok next := by
  simp only [run, Logged.outcome_bind, Outcome.bind_eq_ok_iff, step_eq_ok_iff]

/-- What every statement that succeeds keeps holds after each run from where it holds. -/
theorem invariant_of_run
    [Scalar α]
    {registry : Registry α}
    {policy : RedeclarationPolicy}
    {Holds : Session α → Prop}
    (isKept : ∀ {session statement next},
      Holds session → Succeeds registry policy session statement next → Holds next)
    {statements : List (Located (Statement α))}
    (holds : Holds session)
    (ran : (session.run registry policy statements).outcome = .ok next) :
    Holds next := by
  induction statements generalizing session with
  | nil =>
      cases ran
      exact holds
  | cons statement rest inductionHypothesis =>
      obtain ⟨between, succeeds, ranRest⟩ := run_cons_eq_ok_iff.1 ran
      exact inductionHypothesis (isKept holds succeeds) ranRest

/-- Statements are run after some others from the session that those have left. -/
theorem outcome_run_append
    [Scalar α]
    (registry : Registry α)
    (policy : RedeclarationPolicy)
    (session : Session α)
    (first second : List (Located (Statement α))) :
    (session.run registry policy (first ++ second)).outcome =
      (session.run registry policy first).outcome >>= fun between =>
        (between.run registry policy second).outcome := by
  induction first generalizing session with
  | nil =>
      rfl
  | cons statement rest inductionHypothesis =>
      simp only [List.cons_append, run, Logged.outcome_bind, inductionHypothesis, bind_assoc]

theorem run_append_eq_ok_iff
    [Scalar α]
    {registry : Registry α}
    {policy : RedeclarationPolicy}
    {first second : List (Located (Statement α))} :
    (session.run registry policy (first ++ second)).outcome = .ok next ↔
      ∃ between,
        (session.run registry policy first).outcome = .ok between ∧
          (between.run registry policy second).outcome = .ok next := by
  rw [outcome_run_append, Outcome.bind_eq_ok_iff]

theorem outcome_run_singleton
    [Scalar α]
    (registry : Registry α)
    (policy : RedeclarationPolicy)
    (session : Session α)
    (statement : Located (Statement α)) :
    (session.run registry policy [statement]).outcome =
      (session.step registry policy statement).outcome := by
  simp only [run, Logged.outcome_bind, Logged.outcome_pure]
  exact bind_pure _

/-- A run that ends in a statement is a run before it and a step. -/
theorem run_concat_eq_ok_iff
    [Scalar α]
    {registry : Registry α}
    {policy : RedeclarationPolicy}
    {statements : List (Located (Statement α))}
    {last : Located (Statement α)} :
    (session.run registry policy (statements ++ [last])).outcome = .ok next ↔
      ∃ between,
        (session.run registry policy statements).outcome = .ok between ∧
          Succeeds registry policy between last next := by
  simp only [run_append_eq_ok_iff, outcome_run_singleton, step_eq_ok_iff]

/-! ## Entities that look alike -/

/-- Options that look the same are both empty or hold values that look the same. -/
theorem rel_of_map_eq_map
    {β δ γ : Type}
    {first : Option β}
    {second : Option δ}
    {view : β → γ}
    {otherView : δ → γ}
    (same : first.map view = second.map otherView) :
    Option.Rel (fun value other => view value = otherView other) first second := by
  cases first with
  | none =>
      rw [Option.map_none, eq_comm, Option.map_eq_none_iff] at same
      rw [same]
      exact .none
  | some value =>
      obtain ⟨other, rfl, sameView⟩ := Option.map_eq_some_iff.1 same.symm
      exact .some sameView.symm

/-- Where a name stands for one index, it stands for entities that look the same. -/
theorem related_lookup
    {β : Type}
    {counterpart : Session α}
    {view otherView : PlacedEntity α → β}
    (sameNames : session.names = counterpart.names)
    (sameViews : session.entities.map view = counterpart.entities.map otherView)
    (name : Located Name) :
    Outcome.Related
      (fun found other =>
        session.lookup name = .ok found ∧
          counterpart.lookup name = .ok other ∧ view found.placed = otherView other.placed)
      (session.lookup name) (counterpart.lookup name) := by
  cases stored : counterpart.names.get? name.value with
  | none =>
      simp only [lookup, sameNames, stored]
      exact .error _
  | some index =>
      have viewsHere := congrArg (·[index]?) sameViews
      simp only [List.getElem?_map] at viewsHere
      have alike := rel_of_map_eq_map viewsHere
      generalize isPlaced : session.entities[index]? = first at alike
      generalize isOther : counterpart.entities[index]? = second at alike
      cases alike with
      | none =>
          simp only [lookup, sameNames, stored, isPlaced, isOther]
          exact .error _
      | @some placed other sameView =>
          have isFound : session.lookup name = .ok ⟨index, placed⟩ :=
            lookup_eq_ok_iff.2 ⟨sameNames ▸ stored, isPlaced⟩
          have isCounterpart : counterpart.lookup name = .ok ⟨index, other⟩ :=
            lookup_eq_ok_iff.2 ⟨stored, isOther⟩
          rw [isFound, isCounterpart]
          exact .ok ⟨rfl, rfl, sameView⟩

/-- A declaration goes the same way in sessions with the same tables, and they stay related if
they do with one more entity. -/
theorem related_declare
    {counterpart : Session α}
    {results : Session α → Session α → Prop}
    (sameAliases : session.aliases = counterpart.aliases)
    (sameNames : session.names = counterpart.names)
    (appends : ∀ placed, results (session.append placed) (counterpart.append placed))
    (registry : Registry α)
    (policy : RedeclarationPolicy)
    (span : Span)
    (name className : Located Name)
    (arguments : List (Located (Literal α))) :
    Outcome.Related results
      (session.declare registry policy span name className arguments).outcome
      (counterpart.declare registry policy span name className arguments).outcome := by
  unfold declare
  rw [checkName_congr sameNames, expandClass_congr sameAliases]
  simp only [Logged.outcome_bind, Logged.outcome_emit, Logged.outcome_pure]
  refine .after _ fun _ => ?_
  refine .after _ fun entity => ?_
  exact .ok (appends _)

/-! ## What holds of all entities -/

/-- What holds of all entities holds of the one that a name stands for. -/
theorem forall_lookup
    {holds : PlacedEntity α → Prop}
    (all : ∀ placed ∈ session.entities, holds placed)
    {name : Located Name}
    {found : Found α}
    (isFound : session.lookup name = .ok found) :
    holds found.placed :=
  all _ (List.mem_of_getElem? (lookup_eq_ok_iff.1 isFound).2)

theorem forall_append
    {holds : PlacedEntity α → Prop}
    (all : ∀ placed ∈ session.entities, holds placed)
    {last : PlacedEntity α}
    (ofLast : holds last) :
    ∀ placed ∈ (session.append last).entities, holds placed :=
  List.forall_mem_append.2 ⟨all, List.forall_mem_singleton.2 ofLast⟩

/-- Moving an entity keeps what holds of all entities and still holds of the moved one. -/
theorem forall_move
    {holds : PlacedEntity α → Prop}
    (all : ∀ placed ∈ session.entities, holds placed)
    {found : Found α}
    {transform : Transform α}
    (ofMoved : holds (found.placed.withTransform transform)) :
    ∀ placed ∈ (session.move found transform).entities, holds placed := by
  intro placed member
  rcases List.mem_or_eq_of_mem_set member with isOther | rfl
  · exact all placed isOther
  · exact ofMoved

/-! ## Moving an entity -/

/-- Replacing an item with one that looks the same changes no view of the list. -/
theorem map_set_eq_map
    {β γ : Type}
    {view : β → γ}
    {items : List β}
    {index : Nat}
    {old item : β}
    (isHere : items[index]? = some old)
    (sameView : view item = view old) :
    (items.set index item).map view = items.map view := by
  have isViewHere : (items.map view)[index]? = some (view old) := by
    rw [List.getElem?_map, isHere, Option.map_some]
  obtain ⟨_, isView⟩ := List.getElem?_eq_some_iff.1 isViewHere
  rw [List.map_set, sameView, ← isView, List.set_getElem_self]

/-- Moving the entity of a name changes nothing of the entities but transforms. -/
theorem map_entities_move
    {session : Session α}
    {name : Located Name}
    {found : Found α}
    (isFound : session.lookup name = .ok found)
    (transform : Transform α)
    {β : Type}
    (view : PlacedEntity α → β)
    (ignoresTransform : ∀ placed transform, view (placed.withTransform transform) = view placed) :
    (session.move found transform).entities.map view = session.entities.map view :=
  map_set_eq_map (lookup_eq_ok_iff.1 isFound).2 (ignoresTransform found.placed transform)

/-- After a motion a name stands for the same index, and only the moved entity has changed. -/
theorem lookup_move
    {name other : Located Name}
    {found reference : Found α}
    (isFound : session.lookup name = .ok found)
    (isReference : session.lookup other = .ok reference)
    (transform : Transform α) :
    (session.move found transform).lookup other =
      .ok
        ⟨reference.index,
          if reference.index = found.index then
            reference.placed.withTransform transform
          else
            reference.placed⟩ := by
  obtain ⟨inside, isHere⟩ := List.getElem?_eq_some_iff.1 (lookup_eq_ok_iff.1 isFound).2
  obtain ⟨stored, isPlaced⟩ := lookup_eq_ok_iff.1 isReference
  refine lookup_eq_ok_iff.2 ⟨stored, ?_⟩
  by_cases same : reference.index = found.index
  · rw [same, List.getElem?_eq_getElem inside, Option.some.injEq] at isPlaced
    simp [move, same, inside, ← isPlaced, isHere]
  · simp [move, same, List.getElem?_set_ne (Ne.symm same), isPlaced]

end LevelScript.Session

namespace LevelScript.Level

/-- A level is what the session of a whole run becomes. -/
theorem outcome_ofStatements
    [Scalar α]
    (registry : Registry α)
    (policy : RedeclarationPolicy)
    (statements : List (Located (Statement α))) :
    (ofStatements registry policy statements).outcome =
      (Session.empty.run registry policy statements).outcome >>= fun session =>
        .ok session.toLevel := by
  simp only [ofStatements, Logged.outcome_bind, Logged.outcome_emit, Logged.outcome_pure]
  rfl

variable {α : Type} [Scalar α] {registry : Registry α} {policy : RedeclarationPolicy}
  {statements : List (Located (Statement α))}

theorem ofStatements_eq_ok_iff
    {level : Level α} :
    (ofStatements registry policy statements).outcome = .ok level ↔
      ∃ session,
        (Session.empty.run registry policy statements).outcome = .ok session ∧
          session.toLevel = level := by
  simp [outcome_ofStatements, Outcome.bind_eq_ok_iff]

/-- A level fails as the run of its statements does. -/
theorem ofStatements_eq_error_iff
    {error : LoadError} :
    (ofStatements registry policy statements).outcome = .error error ↔
      (Session.empty.run registry policy statements).outcome = .error error := by
  simp [outcome_ofStatements, Outcome.bind_eq_error_iff]

end LevelScript.Level
