import LevelScript.Proofs.Construction.Resolution
import LevelScript.Proofs.Session.Transition

namespace LevelScript

/-!
# What a statement changes

A statement that succeeds adds one entity at the end or moves one that its name stands for,
and leaves all others alone. What an entity was declared with never changes, and it stays
where its constructor has put it until a statement moves it.
-/

variable {α : Type}

/-- What an entity is declared with: its name, its class and its connectors. -/
def PlacedEntity.declared
    (placed : PlacedEntity α) :
    Name × Name × Option (Connectors α) :=
  (placed.name, placed.className, placed.connectors)

/-- The connector of an entity that has the given name. -/
def PlacedEntity.socket?
    (placed : PlacedEntity α)
    (name : Name) :
    Option (Connector α) :=
  placed.connectors.bind (·.get? name)

/-- A transform is another one with the given position; all else is the same. -/
structure Transform.IsMovedTo
    (before : Transform α)
    (position : Vec3 α)
    (after : Transform α) :
    Prop where
  position : after.position = position
  xAxis : after.xAxis = before.xAxis
  yAxis : after.yAxis = before.yAxis
  zAxis : after.zAxis = before.zAxis
  corner : after.wAxis.w = before.wAxis.w

theorem Transform.isMovedTo_withPosition
    (transform : Transform α)
    (position : Vec3 α) :
    transform.IsMovedTo position (transform.withPosition position) where
  position := rfl
  xAxis := rfl
  yAxis := rfl
  zAxis := rfl
  corner := rfl

/-- An entity is another one with the given transform; all that it was declared with is kept. -/
structure PlacedEntity.IsMovedTo
    (before : PlacedEntity α)
    (transform : Transform α)
    (after : PlacedEntity α) :
    Prop where
  transform : after.transform = transform
  name : after.name = before.name
  className : after.className = before.className
  connectors : after.connectors = before.connectors

theorem PlacedEntity.isMovedTo_withTransform
    (placed : PlacedEntity α)
    (transform : Transform α) :
    placed.IsMovedTo transform (placed.withTransform transform) where
  transform := rfl
  name := rfl
  className := rfl
  connectors := rfl

theorem PlacedEntity.IsMovedTo.declared_eq
    {before after : PlacedEntity α}
    {transform : Transform α}
    (isMoved : before.IsMovedTo transform after) :
    after.declared = before.declared := by
  simp only [declared, isMoved.name, isMoved.className, isMoved.connectors]

namespace Session

open PlacedEntity (isMovedTo_withTransform)
open Transform (isMovedTo_withPosition)

/-- The entity that a name stands for. -/
def entity?
    (session : Session α)
    (name : Name) :
    Option (PlacedEntity α) :=
  session.toLevel.find? name

/-- Between two sessions the entity that a name stands for is moved, and no other one changes. -/
def Moves
    (session : Session α)
    (name : Name)
    (before : PlacedEntity α)
    (transform : Transform α)
    (next : Session α) :
    Prop :=
  ∃ index after,
    session.names.get? name = some index ∧
      session.entities[index]? = some before ∧
      before.IsMovedTo transform after ∧
      next.entities = session.entities.set index after

/-- The position that a placement asks for, which may be relative to another entity's. -/
inductive AsksFor
    [Add α]
    (session : Session α)
    (position : Vec3 α) :
    Option (Located Name) → Vec3 α → Prop where
  | absolute :
      AsksFor session position none position
  | relative
      {origin : Located Name}
      {reference : PlacedEntity α} :
      session.entity? origin.value = some reference →
      AsksFor session position (some origin) (position + reference.position)

/-- What a statement that succeeds does to the entities of a session. -/
def Effect
    [Scalar α]
    (registry : Registry α)
    (session : Session α)
    (statement : Located (Statement α))
    (next : Session α) :
    Prop :=
  match statement.value with
  | .abbreviation _ _ => next.entities = session.entities
  -- The entity that a constructor has built is added at the end.
  | .declaration name className arguments =>
      ∃ entityClass constructor entity,
        registry.lookup (session.expandClass className.value) = .found entityClass ∧
          entityClass.findConstructor? (arguments.map Located.value) = some constructor ∧
          constructor.build (arguments.map Located.value) = .ok entity ∧
          next.entities =
            session.entities ++ [⟨name.value, session.expandClass className.value, entity⟩]
  -- Only the position of the entity changes that the name stands for.
  | .placement name position relativeTo =>
      ∃ before target after,
        session.AsksFor position.value relativeTo target ∧
          before.transform.IsMovedTo target after ∧
          session.Moves name.value before after next
  -- Only the entity changes that the first name stands for, even if it is the base itself.
  | .connection moved movedConnector base baseConnector =>
      ∃ before reference movedSocket baseSocket,
        session.entity? base.value = some reference ∧
          before.socket? movedConnector.value = some movedSocket ∧
          reference.socket? baseConnector.value = some baseSocket ∧
          session.Moves moved.value before
            (Connector.matedTransform reference.transform baseSocket movedSocket) next

/-- The index of the entity that a statement moves, if it moves one. -/
def movedIndex?
    (session : Session α)
    (statement : Located (Statement α)) :
    Option Nat :=
  match statement.value with
  | .placement name _ _ => session.names.get? name.value
  | .connection moved _ _ _ => session.names.get? moved.value
  | _ => none

/-- No statement of a run moves the entity at an index. -/
def NeverMoves
    [Scalar α]
    (registry : Registry α)
    (policy : RedeclarationPolicy)
    (index : Nat)
    (session : Session α)
    (statements : List (Located (Statement α))) :
    Prop :=
  ∀ passed statement rest between,
    statements = passed ++ statement :: rest →
      (session.run registry policy passed).outcome = .ok between →
      between.movedIndex? statement ≠ some index

/-! ## One statement -/

section Steps

variable {session next : Session α}

theorem connector_eq_ok_iff
    {placed : PlacedEntity α}
    {entity name : Located Name}
    {socket : Connector α} :
    connector placed entity name = .ok socket ↔ placed.socket? name.value = some socket := by
  unfold connector PlacedEntity.socket?
  cases placed.connectors with
  | none =>
      simp
  | some connectors =>
      simp only [Option.bind_some]
      cases connectors.get? name.value <;> simp

theorem entity?_of_lookup
    {name : Located Name}
    {found : Found α}
    (isFound : session.lookup name = .ok found) :
    session.entity? name.value = some found.placed := by
  obtain ⟨stored, isPlaced⟩ := lookup_eq_ok_iff.1 isFound
  exact Option.bind_eq_some_iff.2 ⟨found.index, stored, isPlaced⟩

theorem moves_of_lookup
    {name : Located Name}
    {found : Found α}
    (isFound : session.lookup name = .ok found)
    (transform : Transform α) :
    session.Moves name.value found.placed transform (session.move found transform) := by
  obtain ⟨stored, isPlaced⟩ := lookup_eq_ok_iff.1 isFound
  exact ⟨found.index, _, stored, isPlaced, isMovedTo_withTransform _ _, rfl⟩

/-- A motion changes no entity but the one at its index. -/
theorem Moves.getElem?_of_ne
    {name : Name}
    {before : PlacedEntity α}
    {transform : Transform α}
    (moves : session.Moves name before transform next)
    {index : Nat}
    (different : session.names.get? name ≠ some index) :
    next.entities[index]? = session.entities[index]? := by
  obtain ⟨moved, _, stored, _, _, entities⟩ := moves
  rw [entities, List.getElem?_set_ne]
  rintro rfl
  exact different stored

/-- A motion changes nothing that an entity was declared with. -/
theorem Moves.map_declared
    {name : Name}
    {before : PlacedEntity α}
    {transform : Transform α}
    (moves : session.Moves name before transform next) :
    next.entities.map PlacedEntity.declared = session.entities.map PlacedEntity.declared := by
  obtain ⟨moved, after, _, isPlaced, isMoved, entities⟩ := moves
  rw [entities]
  exact map_set_eq_map isPlaced isMoved.declared_eq

variable [Scalar α] {registry : Registry α} {policy : RedeclarationPolicy}
  {statement : Located (Statement α)}

theorem effect_of_succeeds
    (succeeds : Succeeds registry policy session statement next) :
    Effect registry session statement next := by
  cases succeeds with
  | abbreviation _ =>
      rfl
  | declaration _ built =>
      obtain ⟨entityClass, constructor, isClass, isFirst, builds⟩ :=
        Registry.construct_eq_ok_iff.1 built
      exact ⟨entityClass, constructor, _, isClass, isFirst, builds, rfl⟩
  | absolute isFound =>
      exact ⟨_, _, _, .absolute, isMovedTo_withPosition _ _, moves_of_lookup isFound _⟩
  | relative isFound isReference =>
      exact
        ⟨_, _, _, .relative (entity?_of_lookup isReference), isMovedTo_withPosition _ _,
          moves_of_lookup isFound _⟩
  | connection isMoved isBase isMovedSocket isBaseSocket =>
      exact
        ⟨_, _, _, _, entity?_of_lookup isBase, connector_eq_ok_iff.1 isMovedSocket,
          connector_eq_ok_iff.1 isBaseSocket, moves_of_lookup isMoved _⟩

/-- What an entity was declared with stays as it is, and so does the order of entities. -/
theorem Effect.keeps_declared
    (effect : Effect registry session statement next) :
    session.entities.map PlacedEntity.declared <+: next.entities.map PlacedEntity.declared := by
  obtain ⟨value, span⟩ := statement
  cases value with
  | abbreviation short className =>
      have entities : next.entities = session.entities := effect
      simp only [entities, List.prefix_rfl]
  | declaration name className arguments =>
      obtain ⟨_, _, entity, _, _, _, entities⟩ := effect
      rw [entities, List.map_append]
      exact List.prefix_append _ _
  | placement name position relativeTo =>
      obtain ⟨_, _, _, _, _, moves⟩ := effect
      simp only [moves.map_declared, List.prefix_rfl]
  | connection moved movedConnector base baseConnector =>
      obtain ⟨_, _, _, _, _, _, _, moves⟩ := effect
      simp only [moves.map_declared, List.prefix_rfl]

/-- An entity that a statement does not move stays as it is. -/
theorem Effect.getElem?_eq_some
    (effect : Effect registry session statement next)
    {index : Nat}
    {placed : PlacedEntity α}
    (isPlaced : session.entities[index]? = some placed)
    (notMoved : session.movedIndex? statement ≠ some index) :
    next.entities[index]? = some placed := by
  obtain ⟨value, span⟩ := statement
  cases value with
  | abbreviation short className =>
      rw [show next.entities = session.entities from effect]
      exact isPlaced
  | declaration name className arguments =>
      obtain ⟨_, _, entity, _, _, _, entities⟩ := effect
      rw [entities, List.getElem?_append_left (List.getElem?_eq_some_iff.1 isPlaced).1]
      exact isPlaced
  | placement name position relativeTo =>
      obtain ⟨_, _, _, _, _, moves⟩ := effect
      rw [moves.getElem?_of_ne notMoved]
      exact isPlaced
  | connection moved movedConnector base baseConnector =>
      obtain ⟨_, _, _, _, _, _, _, moves⟩ := effect
      rw [moves.getElem?_of_ne notMoved]
      exact isPlaced

end Steps

/-! ## Runs -/

section Runs

variable [Scalar α] {registry : Registry α} {policy : RedeclarationPolicy}
  {session next final : Session α}

theorem neverMoves_nil
    (registry : Registry α)
    (policy : RedeclarationPolicy)
    (index : Nat)
    (session : Session α) :
    NeverMoves registry policy index session [] := by
  intro passed statement rest between split _
  simp at split

/-- A run does not move an entity if neither its first statement nor the rest does. -/
theorem neverMoves_cons_iff
    {index : Nat}
    {statement : Located (Statement α)}
    {rest : List (Located (Statement α))} :
    NeverMoves registry policy index session (statement :: rest) ↔
      session.movedIndex? statement ≠ some index ∧
        ∀ next,
          Succeeds registry policy session statement next →
            NeverMoves registry policy index next rest := by
  constructor
  · intro never
    refine ⟨never [] statement rest session rfl rfl, ?_⟩
    rintro next succeeds passed moving later between rfl ran
    exact
      never (statement :: passed) moving later between rfl
        (run_cons_eq_ok_iff.2 ⟨next, succeeds, ran⟩)
  · rintro ⟨notMoved, neverLater⟩ passed moving later between split ran
    cases passed with
    | nil =>
        cases split
        cases ran
        exact notMoved
    | cons first passed =>
        cases split
        obtain ⟨next, succeeds, ranRest⟩ := run_cons_eq_ok_iff.1 ran
        exact neverLater next succeeds passed moving later between rfl ranRest

/-- A run changes nothing that an entity was declared with. -/
theorem keeps_declared_of_run
    {statements : List (Located (Statement α))}
    (ran : (session.run registry policy statements).outcome = .ok final) :
    session.entities.map PlacedEntity.declared <+: final.entities.map PlacedEntity.declared := by
  have isKept : ∀ {between statement next},
      session.entities.map PlacedEntity.declared <+:
          between.entities.map PlacedEntity.declared →
        Succeeds registry policy between statement next →
        session.entities.map PlacedEntity.declared <+:
          next.entities.map PlacedEntity.declared :=
    fun kept succeeds => kept.trans (effect_of_succeeds succeeds).keeps_declared
  exact invariant_of_run isKept List.prefix_rfl ran

/-- An entity that a run does not move stays as it is. -/
theorem getElem?_of_run
    {statements : List (Located (Statement α))}
    (ran : (session.run registry policy statements).outcome = .ok final)
    {index : Nat}
    {placed : PlacedEntity α}
    (isPlaced : session.entities[index]? = some placed)
    (never : NeverMoves registry policy index session statements) :
    final.entities[index]? = some placed := by
  induction statements generalizing session with
  | nil =>
      cases ran
      exact isPlaced
  | cons statement rest inductionHypothesis =>
      obtain ⟨between, succeeds, ranRest⟩ := run_cons_eq_ok_iff.1 ran
      obtain ⟨notMoved, neverLater⟩ := neverMoves_cons_iff.1 never
      exact
        inductionHypothesis ranRest
          ((effect_of_succeeds succeeds).getElem?_eq_some isPlaced notMoved)
          (neverLater between succeeds)

end Runs

/-- What a statement changes, and what it and the rest of a run leave alone. -/
structure Frame
    [Scalar α]
    (registry : Registry α)
    (policy : RedeclarationPolicy)
    (session : Session α)
    (statement : Located (Statement α))
    (next : Session α)
    (later : List (Located (Statement α)))
    (final : Session α) :
    Prop where
  effect : Effect registry session statement next
  /-- What entities were declared with is never changed. -/
  declared :
    session.entities.map PlacedEntity.declared <+: final.entities.map PlacedEntity.declared
  /-- An entity that no later statement moves stays as it is. -/
  unmoved : ∀ index placed,
    next.entities[index]? = some placed →
      NeverMoves registry policy index next later →
      final.entities[index]? = some placed
  /-- A declared entity that no later statement moves stays as its constructor has built it. -/
  constructed : ∀ name className arguments,
    statement.value = .declaration name className arguments →
      NeverMoves registry policy session.entities.length next later →
      ∃ entityClass constructor entity,
        registry.lookup (session.expandClass className.value) = .found entityClass ∧
          entityClass.findConstructor? (arguments.map Located.value) = some constructor ∧
          constructor.build (arguments.map Located.value) = .ok entity ∧
          final.entities[session.entities.length]? =
            some ⟨name.value, session.expandClass className.value, entity⟩

/--
In every session, so in every one that a run passes through, a statement that succeeds
changes the one entity that it adds or names and no other. To the end of the run nothing
that was declared changes, and what no later statement moves stays where it is.
-/
theorem frame_of_run
    [Scalar α]
    {registry : Registry α}
    {policy : RedeclarationPolicy}
    {session next final : Session α}
    {statement : Located (Statement α)}
    {later : List (Located (Statement α))}
    (succeeded : (session.step registry policy statement).outcome = .ok next)
    (ran : (next.run registry policy later).outcome = .ok final) :
    Frame registry policy session statement next later final := by
  have effect : Effect registry session statement next :=
    effect_of_succeeds (step_eq_ok_iff.1 succeeded)
  refine ⟨effect, effect.keeps_declared.trans (keeps_declared_of_run ran), ?_, ?_⟩
  · intro index placed isPlaced never
    exact getElem?_of_run ran isPlaced never
  · intro name className arguments isDeclaration never
    rw [Effect, isDeclaration] at effect
    obtain ⟨entityClass, constructor, entity, isClass, isFirst, builds, entities⟩ := effect
    have isAdded : next.entities[session.entities.length]? =
        some ⟨name.value, session.expandClass className.value, entity⟩ := by
      simp [entities]
    exact
      ⟨entityClass, constructor, entity, isClass, isFirst, builds,
        getElem?_of_run ran isAdded never⟩

/-- A second box is declared, and then only the first one is moved. -/
theorem frame_of_run_boxes :
    ∃ (registry : Registry Float) (session next final : Session Float),
      registry =
          Registry.empty.register
            ⟨⟨"Box"⟩, [⟨[], fun _ => .ok ⟨Transform.identity, none⟩⟩]⟩ ∧
        (empty.run registry .allow
            [.unplaced (.declaration (.unplaced ⟨"a"⟩) (.unplaced ⟨"Box"⟩) [])]).outcome =
          .ok session ∧
        (session.step registry .allow
            (.unplaced (.declaration (.unplaced ⟨"b"⟩) (.unplaced ⟨"Box"⟩) []))).outcome =
          .ok next ∧
        (next.run registry .allow
            [.unplaced (.placement (.unplaced ⟨"a"⟩) (.unplaced ⟨1, 2, 3⟩) none)]).outcome =
          .ok final ∧
        NeverMoves registry .allow session.entities.length next
          [.unplaced (.placement (.unplaced ⟨"a"⟩) (.unplaced ⟨1, 2, 3⟩) none)] ∧
        Frame registry .allow session
          (.unplaced (.declaration (.unplaced ⟨"b"⟩) (.unplaced ⟨"Box"⟩) [])) next
          [.unplaced (.placement (.unplaced ⟨"a"⟩) (.unplaced ⟨1, 2, 3⟩) none)] final := by
  refine ⟨_, _, _, _, rfl, rfl, rfl, rfl, ?never, frame_of_run rfl rfl⟩
  case never =>
    exact neverMoves_cons_iff.2 ⟨by decide, fun _ _ => neverMoves_nil _ _ _ _⟩

end Session

end LevelScript
