import LevelScript.Proofs.Session.Blame
import LevelScript.Proofs.Session.Independence

namespace LevelScript

/-!
# Placements that are overwritten

A connection gives the moved entity a transform in which nothing of the old one is left. Where
that entity was before makes no difference then, as long as nothing else was put relative to it
in the meantime: until the connection two sessions differ in the one transform only, and after
it in nothing.
-/

variable {α : Type}

namespace Session

/-- No statement of a run depends on where the entity at an index is, unless it moves it. -/
def ReadsOnlyToMove
    [Scalar α]
    (registry : Registry α)
    (policy : RedeclarationPolicy)
    (index : Nat)
    (session : Session α)
    (statements : List (Located (Statement α))) :
    Prop :=
  ∀ passed statement rest between,
    statements = passed ++ statement :: rest →
      (session.run registry policy passed).outcome = .ok between →
      between.Reads statement index →
      between.movedIndex? statement = some index

/-- Two sessions differ at most in the transform of the entity at an index. -/
def DifferAt
    (index : Nat)
    (session counterpart : Session α) :
    Prop :=
  ∃ placed transform,
    session.entities[index]? = some placed ∧
      counterpart = session.move ⟨index, placed⟩ transform

variable {session next counterpart : Session α} {index : Nat} {placed : PlacedEntity α}

/-- A name with the index of an entity stands for this entity. -/
theorem eq_of_lookup
    {name : Located Name}
    {found : Found α}
    (isFound : session.lookup name = .ok found)
    (isIndex : session.names.get? name.value = some index)
    (isPlaced : session.entities[index]? = some placed) :
    found = ⟨index, placed⟩ := by
  have isHere : session.lookup name = .ok ⟨index, placed⟩ :=
    lookup_eq_ok_iff.2 ⟨isIndex, isPlaced⟩
  exact Except.ok.inj (isFound.symm.trans isHere)

/-- After a motion a name stands for the same entity, which may be somewhere else. -/
theorem exists_lookup_move
    {name other : Located Name}
    {found reference : Found α}
    (isFound : session.lookup name = .ok found)
    (isReference : session.lookup other = .ok reference)
    (transform : Transform α) :
    ∃ after,
      (session.move found transform).lookup other =
        .ok ⟨reference.index, reference.placed.withTransform after⟩ := by
  have isReferenceToo := lookup_move isFound isReference transform
  split at isReferenceToo
  · exact ⟨transform, isReferenceToo⟩
  · exact ⟨reference.placed.transform, isReferenceToo⟩

variable [Scalar α] {registry : Registry α} {policy : RedeclarationPolicy}
  {statement : Located (Statement α)} {statements : List (Located (Statement α))}

/-! ## One statement -/

/-- A statement that moves an entity still does so wherever that entity is. -/
theorem Succeeds.exists_of_moves
    (succeeds : Succeeds registry policy session statement next)
    (isPlaced : session.entities[index]? = some placed)
    (moves : session.movedIndex? statement = some index)
    (transform : Transform α) :
    ∃ other,
      Succeeds registry policy (session.move ⟨index, placed⟩ transform) statement
        ((session.move ⟨index, placed⟩ transform).move
          ⟨index, placed.withTransform transform⟩ other) := by
  cases succeeds with
  | abbreviation _ =>
      cases moves
  | declaration _ _ =>
      cases moves
  | absolute isFound =>
      obtain rfl := eq_of_lookup isFound moves isPlaced
      have isFoundToo := lookup_move isFound isFound transform
      rw [if_pos rfl] at isFoundToo
      exact ⟨_, .absolute isFoundToo⟩
  | relative isFound isReference =>
      obtain rfl := eq_of_lookup isFound moves isPlaced
      have isFoundToo := lookup_move isFound isFound transform
      rw [if_pos rfl] at isFoundToo
      exact ⟨_, .relative isFoundToo (lookup_move isFound isReference transform)⟩
  | connection isMoved isBase isMovedSocket isBaseSocket =>
      obtain rfl := eq_of_lookup isMoved moves isPlaced
      have isMovedToo := lookup_move isMoved isMoved transform
      rw [if_pos rfl] at isMovedToo
      obtain ⟨_, isBaseToo⟩ := exists_lookup_move isMoved isBase transform
      exact ⟨_, .connection isMovedToo isBaseToo isMovedSocket isBaseSocket⟩

/-- A connection to another entity does the same wherever the moved entity was. -/
theorem Succeeds.connection_overwrites
    {moved movedConnector base baseConnector : Located Name}
    {span : Span}
    (succeeds :
      Succeeds registry policy session
        ⟨.connection moved movedConnector base baseConnector, span⟩ next)
    (isPlaced : session.entities[index]? = some placed)
    (isMovedIndex : session.names.get? moved.value = some index)
    (different : session.names.get? base.value ≠ some index)
    (transform : Transform α) :
    Succeeds registry policy (session.move ⟨index, placed⟩ transform)
      ⟨.connection moved movedConnector base baseConnector, span⟩ next := by
  cases succeeds with
  | connection isMoved isBase isMovedSocket isBaseSocket =>
      obtain rfl := eq_of_lookup isMoved isMovedIndex isPlaced
      have isMovedToo := lookup_move isMoved isMoved transform
      rw [if_pos rfl] at isMovedToo
      rw [← lookup_move_of_ne ⟨index, placed⟩ different transform] at isBase
      have succeedsToo :
          Succeeds registry policy (session.move ⟨index, placed⟩ transform)
            ⟨.connection moved movedConnector base baseConnector, span⟩ _ :=
        .connection isMovedToo isBase isMovedSocket isBaseSocket
      rwa [move_move] at succeedsToo

/-- A statement that depends on where an entity is only in order to move it keeps sessions apart
at this entity only. -/
theorem DifferAt.step
    (differ : DifferAt index session counterpart)
    (readsOnly : session.Reads statement index → session.movedIndex? statement = some index)
    (succeeds : Succeeds registry policy session statement next) :
    ∃ other, Succeeds registry policy counterpart statement other ∧ DifferAt index next other := by
  obtain ⟨placed, transform, isPlaced, rfl⟩ := differ
  by_cases moves : session.movedIndex? statement = some index
  · obtain ⟨otherTransform, succeedsToo⟩ := succeeds.exists_of_moves isPlaced moves transform
    obtain ⟨samePlaced, nextTransform, isSame, rfl⟩ := succeeds.exists_move moves
    obtain rfl := Option.some.inj (isPlaced.symm.trans isSame)
    have isMoved := getElem?_move_self ⟨index, placed⟩ isPlaced nextTransform
    refine ⟨_, succeedsToo, _, otherTransform, isMoved, ?_⟩
    rw [move_move session ⟨index, placed⟩, ← move_move session ⟨index, placed⟩ nextTransform]
  · have leavesAlone : session.LeavesAlone statement index :=
      ⟨moves, fun reads => moves (readsOnly reads)⟩
    have inside := (List.getElem?_eq_some_iff.1 isPlaced).1
    refine
      ⟨_, succeeds.move_of_leavesAlone ⟨index, placed⟩ inside leavesAlone transform,
        placed, transform, ?_, rfl⟩
    exact (effect_of_succeeds succeeds).getElem?_eq_some isPlaced moves

/-- A statement changes what a name stands for only if it declares it. -/
theorem Succeeds.get?_names
    (succeeds : Succeeds registry policy session statement next)
    {name : Name}
    (undeclared : statement.declaredName? ≠ some name) :
    next.names.get? name = session.names.get? name := by
  cases succeeds with
  | declaration _ _ =>
      refine Table.get?_insert_of_ne _ _ ?_
      rintro rfl
      exact undeclared rfl
  | _ =>
      rfl

/-! ## Runs -/

theorem readsOnlyToMove_nil
    (registry : Registry α)
    (policy : RedeclarationPolicy)
    (index : Nat)
    (session : Session α) :
    session.ReadsOnlyToMove registry policy index [] := by
  intro passed statement rest between split _ _
  simp at split

/-- A run reads an entity only to move it if its first statement and the rest do. -/
theorem readsOnlyToMove_cons_iff :
    session.ReadsOnlyToMove registry policy index (statement :: statements) ↔
      (session.Reads statement index → session.movedIndex? statement = some index) ∧
        ∀ next,
          Succeeds registry policy session statement next →
            next.ReadsOnlyToMove registry policy index statements := by
  constructor
  · intro readsOnly
    refine ⟨readsOnly [] statement statements session rfl rfl, ?_⟩
    rintro next succeeds passed reading later between rfl ran
    exact
      readsOnly (statement :: passed) reading later between rfl
        (run_cons_eq_ok_iff.2 ⟨next, succeeds, ran⟩)
  · rintro ⟨readsFirst, readsRest⟩ passed reading later between split ran
    cases passed with
    | nil =>
        cases split
        cases ran
        exact readsFirst
    | cons first passed =>
        cases split
        obtain ⟨next, succeeds, ranRest⟩ := run_cons_eq_ok_iff.1 ran
        exact readsRest next succeeds passed reading later between rfl ranRest

theorem DifferAt.run
    (differ : DifferAt index session counterpart)
    (readsOnly : session.ReadsOnlyToMove registry policy index statements)
    (ran : (session.run registry policy statements).outcome = .ok next) :
    ∃ other,
      (counterpart.run registry policy statements).outcome = .ok other ∧
        DifferAt index next other := by
  induction statements generalizing session counterpart with
  | nil =>
      cases ran
      exact ⟨counterpart, rfl, differ⟩
  | cons statement rest inductionHypothesis =>
      obtain ⟨between, succeeds, ranRest⟩ := run_cons_eq_ok_iff.1 ran
      obtain ⟨readsFirst, readsRest⟩ := readsOnlyToMove_cons_iff.1 readsOnly
      obtain ⟨otherBetween, succeedsToo, differBetween⟩ := differ.step readsFirst succeeds
      obtain ⟨other, ranToo, differNext⟩ :=
        inductionHypothesis differBetween (readsRest between succeeds) ranRest
      exact ⟨other, run_cons_eq_ok_iff.2 ⟨otherBetween, succeedsToo, ranToo⟩, differNext⟩

/-- A name that a run does not declare stands for the same entity after it. -/
theorem get?_names_of_run
    {name : Name}
    (undeclared : ¬Program.Declares statements name)
    (ran : (session.run registry policy statements).outcome = .ok next) :
    next.names.get? name = session.names.get? name := by
  induction statements generalizing session with
  | nil =>
      cases ran
      rfl
  | cons statement rest inductionHypothesis =>
      obtain ⟨between, succeeds, ranRest⟩ := run_cons_eq_ok_iff.1 ran
      have undeclaredRest : ¬Program.Declares rest name := by
        rintro ⟨declaring, member, declares⟩
        exact undeclared ⟨declaring, List.mem_cons_of_mem _ member, declares⟩
      rw [inductionHypothesis undeclaredRest ranRest]
      exact succeeds.get?_names fun declares => undeclared ⟨statement, by simp, declares⟩

end Session

namespace Level

open Session (run_append_eq_ok_iff run_cons_eq_ok_iff step_eq_ok_iff)

/--
A placement or connection may be left out if a later connection moves the same entity to another
one, and what comes in between neither declares its name again nor puts another entity relative
to it. The level is the same, exactly.
-/
theorem ofStatements_without_overwritten
    [Scalar α]
    {registry : Registry α}
    {policy : RedeclarationPolicy}
    {passed between later : List (Located (Statement α))}
    {moving : Located (Statement α)}
    {moved movedConnector base baseConnector : Located Name}
    {span : Span}
    {session next last : Session α}
    {index : Nat}
    {level : Level α}
    (ran : (Session.empty.run registry policy passed).outcome = .ok session)
    (moves : session.movedIndex? moving = some index)
    (isMovedIndex : session.names.get? moved.value = some index)
    (stepped : (session.step registry policy moving).outcome = .ok next)
    (undeclared : ¬Program.Declares between moved.value)
    (readsOnly : next.ReadsOnlyToMove registry policy index between)
    (ranBetween : (next.run registry policy between).outcome = .ok last)
    (different : last.names.get? base.value ≠ some index)
    (succeeded :
      (ofStatements registry policy
          (passed ++ moving ::
            (between ++
              ⟨.connection moved movedConnector base baseConnector, span⟩ :: later))).outcome =
        .ok level) :
    (ofStatements registry policy
        (passed ++
          (between ++
            ⟨.connection moved movedConnector base baseConnector, span⟩ :: later))).outcome =
      .ok level := by
  obtain ⟨final, ranAll, isLevel⟩ := ofStatements_eq_ok_iff.1 succeeded
  obtain ⟨start, ranPassed, ranRest⟩ := run_append_eq_ok_iff.1 ranAll
  obtain rfl := Except.ok.inj (ran.symm.trans ranPassed)
  obtain ⟨placedThere, succeeds, ranThen⟩ := run_cons_eq_ok_iff.1 ranRest
  obtain rfl := Except.ok.inj (stepped.symm.trans (step_eq_ok_iff.2 succeeds))
  obtain ⟨lastToo, ranBetweenToo, ranConnection⟩ := run_append_eq_ok_iff.1 ranThen
  obtain rfl := Except.ok.inj (ranBetween.symm.trans ranBetweenToo)
  obtain ⟨connected, connects, ranLater⟩ := run_cons_eq_ok_iff.1 ranConnection
  -- Without the motion the entity is where it was.
  have differ : Session.DifferAt index next session := by
    obtain ⟨placed, transform, isPlaced, rfl⟩ := succeeds.exists_move moves
    exact
      ⟨_, placed.transform, Session.getElem?_move_self ⟨index, placed⟩ isPlaced transform,
        (Session.move_back ⟨index, placed⟩ isPlaced transform).symm⟩
  obtain ⟨other, ranOther, placed, transform, isPlaced, rfl⟩ := differ.run readsOnly ranBetween
  have notDeclaring : moving.declaredName? ≠ some moved.value := by
    cases succeeds with
    | declaration _ _ =>
        cases moves
    | _ =>
        intro declares
        cases declares
  have stillMovedIndex : last.names.get? moved.value = some index := by
    rw [Session.get?_names_of_run undeclared ranBetween, succeeds.get?_names notDeclaring]
    exact isMovedIndex
  have connectsToo :=
    connects.connection_overwrites isPlaced stillMovedIndex different transform
  have ranWithout := run_cons_eq_ok_iff.2 ⟨connected, connectsToo, ranLater⟩
  refine ofStatements_eq_ok_iff.2 ⟨final, run_append_eq_ok_iff.2 ⟨session, ran, ?_⟩, isLevel⟩
  exact run_append_eq_ok_iff.2 ⟨_, ranOther, ranWithout⟩

end Level

/-- A lamp is moved away from where it is, and another one is plugged onto a third one. -/
def lampsMeanwhile : List (Located (Statement Float)) :=
  [lampBeside "a" "a", lampOnto "b" "c"]

/-- Before a lamp is plugged onto another one it may have been placed beside a third one. -/
theorem Level.ofStatements_without_overwritten_lamps :
    ∃ session next last level,
      (Session.empty.run lampRegistry .reject threeLamps).outcome = .ok session ∧
        session.movedIndex? (lampBeside "a" "b") = some 0 ∧
        session.names.get? ⟨"a"⟩ = some 0 ∧
        (session.step lampRegistry .reject (lampBeside "a" "b")).outcome = .ok next ∧
        ¬Program.Declares lampsMeanwhile ⟨"a"⟩ ∧
        next.ReadsOnlyToMove lampRegistry .reject 0 lampsMeanwhile ∧
        (next.run lampRegistry .reject lampsMeanwhile).outcome = .ok last ∧
        last.names.get? ⟨"c"⟩ ≠ some 0 ∧
        (ofStatements lampRegistry .reject
            (threeLamps ++ lampBeside "a" "b" ::
              (lampsMeanwhile ++ lampOnto "a" "c" :: [lampOnto "b" "a"]))).outcome =
          .ok level ∧
        (ofStatements lampRegistry .reject
            (threeLamps ++
              (lampsMeanwhile ++ lampOnto "a" "c" :: [lampOnto "b" "a"]))).outcome =
          .ok level := by
  have undeclared : ¬Program.Declares lampsMeanwhile ⟨"a"⟩ := by
    simp [Program.Declares, Located.declaredName?, lampsMeanwhile, lampBeside, lampOnto,
      Located.unplaced]
  have readsOnly : ∀ {session next : Session Float},
      (Session.empty.run lampRegistry .reject threeLamps).outcome = .ok session →
        (session.step lampRegistry .reject (lampBeside "a" "b")).outcome = .ok next →
        next.ReadsOnlyToMove lampRegistry .reject 0 lampsMeanwhile := by
    intro session next ran stepped
    cases ran
    cases stepped
    refine Session.readsOnlyToMove_cons_iff.2 ⟨fun _ => rfl, fun between succeeds => ?_⟩
    cases Session.step_eq_ok_iff.2 succeeds
    refine Session.readsOnlyToMove_cons_iff.2 ⟨?_, fun _ _ => ?_⟩
    · intro reads
      cases reads
    · exact Session.readsOnlyToMove_nil _ _ _ _
  obtain ⟨session, next, last, level, ran, moves, isMovedIndex, stepped, ranBetween, different,
      succeeded⟩ :
      ∃ session next last level,
        (Session.empty.run lampRegistry .reject threeLamps).outcome = .ok session ∧
          session.movedIndex? (lampBeside "a" "b") = some 0 ∧
          session.names.get? ⟨"a"⟩ = some 0 ∧
          (session.step lampRegistry .reject (lampBeside "a" "b")).outcome = .ok next ∧
          (next.run lampRegistry .reject lampsMeanwhile).outcome = .ok last ∧
          last.names.get? ⟨"c"⟩ ≠ some 0 ∧
          (ofStatements lampRegistry .reject
              (threeLamps ++ lampBeside "a" "b" ::
                (lampsMeanwhile ++ lampOnto "a" "c" :: [lampOnto "b" "a"]))).outcome =
            .ok level :=
    ⟨_, _, _, _, rfl, rfl, rfl, rfl, rfl, by decide, rfl⟩
  exact
    ⟨session, next, last, level, ran, moves, isMovedIndex, stepped, undeclared,
      readsOnly ran stepped, ranBetween, different, succeeded,
      ofStatements_without_overwritten ran moves isMovedIndex stepped undeclared
        (readsOnly ran stepped) ranBetween different succeeded⟩

end LevelScript
