import LevelScript.Proofs.Construction.Overloads
import LevelScript.Proofs.Session.Transition

namespace LevelScript

/-!
# What a statement logs

A statement is announced before it is run, and all that follows tells what it does. Where it
succeeds, the log says exactly that: which short name is defined, whether a name is taken over,
which constructor has built an entity, and where an entity is moved.
-/

variable {α : Type}

/-- The event that announces a statement. -/
def Located.announcement
    (statement : Located (Statement α)) :
    Event α :=
  .runningStatement statement.value.kind statement.offset

/-- All that tells what a statement does is allowed. -/
structure Event.AllowsEffects
    (policy : RedeclarationPolicy)
    (allowed : Event α → Prop) :
    Prop where
  defined : ∀ short className, allowed (.definedAlias short className)
  redefined : ∀ short previous className, allowed (.redefinedAlias short previous className)
  rebound : policy = .allow → ∀ name offset, allowed (.reboundName name offset)
  running : ∀ className params, allowed (.runningConstructor className params)
  constructed : ∀ name className connectors,
    allowed (.constructedEntity name className connectors)
  placed : ∀ name position, allowed (.placedEntity name position)
  connected : ∀ moved base position, allowed (.connectedEntities moved base position)

/-! ## Whatever the outcome -/

section Effects

variable {policy : RedeclarationPolicy} {allowed : Event α → Prop}

namespace Registry

theorem forall_events_construct
    (allows : Event.AllowsEffects policy allowed)
    (registry : Registry α)
    (className : Name)
    (arguments : List (Literal α))
    (span : Span) :
    ∀ event ∈ (registry.construct className arguments span).events, allowed event := by
  refine Logged.forall_events_bind (by simp) fun entityClass _ => ?_
  cases entityClass.findConstructor? arguments with
  | none =>
      simp
  | some constructor =>
      exact Logged.forall_events_bind (by simp [allows.running]) (by simp)

end Registry

namespace Session

variable (registry : Registry α) (session : Session α)

theorem forall_events_abbreviate
    (allows : Event.AllowsEffects policy allowed)
    (short className : Located Name) :
    ∀ event ∈ (session.abbreviate registry short className).events, allowed event := by
  refine Logged.forall_events_bind (by simp) fun _ _ => ?_
  cases session.aliases.get? short.value with
  | none =>
      exact Logged.forall_events_bind (by simp [allows.defined]) (by simp)
  | some previous =>
      exact Logged.forall_events_bind (by simp [allows.redefined]) (by simp)

theorem forall_events_checkName
    (allows : Event.AllowsEffects policy allowed)
    (name : Located Name) :
    ∀ event ∈ (checkName policy session name).events, allowed event := by
  unfold checkName
  split
  · cases policy with
    | allow =>
        simp [allows.rebound rfl]
    | reject =>
        simp
  · simp

theorem forall_events_declare
    (allows : Event.AllowsEffects policy allowed)
    (span : Span)
    (name className : Located Name)
    (arguments : List (Located (Literal α))) :
    ∀ event ∈ (session.declare registry policy span name className arguments).events,
      allowed event := by
  refine Logged.forall_events_bind (forall_events_checkName session allows name) fun _ _ => ?_
  refine Logged.forall_events_bind (registry.forall_events_construct allows _ _ _) fun _ _ => ?_
  exact Logged.forall_events_bind (by simp [allows.constructed]) (by simp)

variable [Scalar α]

theorem forall_events_place
    (allows : Event.AllowsEffects policy allowed)
    (name : Located Name)
    (position : Vec3 α)
    (relativeTo : Option (Located Name)) :
    ∀ event ∈ (session.place name position relativeTo).events, allowed event := by
  have moves (found : Found α) (target : Vec3 α) :
      ∀ event ∈
        (do
          Logged.emit (.placedEntity name.value target)
          pure (session.move found (found.placed.transform.withPosition target)) :
            Loading α (Session α)).events,
        allowed event :=
    Logged.forall_events_bind (by simp [allows.placed]) (by simp)
  refine Logged.forall_events_bind (by simp) fun found _ => ?_
  cases relativeTo with
  | none =>
      exact Logged.forall_events_bind (by simp) fun target _ => moves found target
  | some origin =>
      refine Logged.forall_events_bind (by simp) fun reference _ => ?_
      exact Logged.forall_events_bind (by simp) fun target _ => moves found target

theorem forall_events_connect
    (allows : Event.AllowsEffects policy allowed)
    (moved movedConnector base baseConnector : Located Name) :
    ∀ event ∈ (session.connect moved movedConnector base baseConnector).events,
      allowed event := by
  refine Logged.forall_events_bind (by simp) fun _ _ => ?_
  refine Logged.forall_events_bind (by simp) fun _ _ => ?_
  refine Logged.forall_events_bind (by simp) fun _ _ => ?_
  refine Logged.forall_events_bind (by simp) fun _ _ => ?_
  exact Logged.forall_events_bind (by simp [allows.connected]) (by simp)

/-- A statement is announced, and what it logs follows. -/
theorem events_step
    (policy : RedeclarationPolicy)
    (statement : Located (Statement α)) :
    (session.step registry policy statement).events =
      statement.announcement ::
        (match statement.value with
          | .abbreviation short className => session.abbreviate registry short className
          | .declaration name className arguments =>
              session.declare registry policy statement.span name className arguments
          | .placement name position relativeTo =>
              session.place name position.value relativeTo
          | .connection moved movedConnector base baseConnector =>
              session.connect moved movedConnector base baseConnector :
            Loading α (Session α)).events :=
  rfl

/-- A statement is announced once and first, whether it succeeds or fails. -/
theorem exists_events_step
    (allows : Event.AllowsEffects policy allowed)
    (statement : Located (Statement α)) :
    ∃ effects : List (Event α),
      (session.step registry policy statement).events = statement.announcement :: effects ∧
        ∀ event ∈ effects, allowed event := by
  obtain ⟨value, span⟩ := statement
  refine ⟨_, events_step registry session policy ⟨value, span⟩, ?_⟩
  cases value with
  | abbreviation short className =>
      exact forall_events_abbreviate registry session allows short className
  | declaration name className arguments =>
      exact forall_events_declare registry session allows span name className arguments
  | placement name position relativeTo =>
      exact forall_events_place session allows name position.value relativeTo
  | connection moved movedConnector base baseConnector =>
      exact forall_events_connect session allows moved movedConnector base baseConnector

end Session

end Effects

/-! ## Where a statement succeeds -/

/-- A value without any event is passed on. -/
theorem Logged.liftM_ok_bind
    {τ ε β γ : Type}
    (value : β)
    (next : β → Logged τ ε γ) :
    (liftM (Except.ok value : Except ε β) : Logged τ ε β) >>= next = next value :=
  rfl

namespace Session

variable {registry : Registry α} {policy : RedeclarationPolicy} {session : Session α}

/-- An abbreviation is noted as a new one or as another one. -/
theorem events_abbreviate
    {short className : Located Name}
    {entityClass : EntityClass α}
    (resolved : registry.resolve className.value className.span = .ok entityClass) :
    (session.abbreviate registry short className).events =
      [match session.aliases.get? short.value with
        | some previous => .redefinedAlias short.value previous className.value
        | none => .definedAlias short.value className.value] := by
  unfold abbreviate
  rw [resolved]
  cases session.aliases.get? short.value <;> rfl

/-- That a name may be declared is noted if it stands for another entity. -/
theorem events_checkName
    {name : Located Name}
    (fresh : policy = .reject → session.names.get? name.value = none) :
    (checkName policy session name).events =
      if (session.names.get? name.value).isSome then
        [.reboundName name.value name.offset]
      else
        [] := by
  unfold checkName Table.contains
  cases stored : session.names.get? name.value with
  | none =>
      rfl
  | some index =>
      cases policy with
      | allow =>
          rfl
      | reject =>
          rw [fresh rfl] at stored
          cases stored

/-- A declaration that succeeds runs one constructor, which builds its entity. -/
theorem exists_events_declare
    {span : Span}
    {name className : Located Name}
    {arguments : List (Located (Literal α))}
    {entity : Entity α}
    (fresh : policy = .reject → session.names.get? name.value = none)
    (built :
      (registry.construct (session.expandClass className.value)
          (arguments.map Located.value) span).outcome = .ok entity) :
    ∃ (params : List LiteralKind) (connectors : Nat),
      (session.declare registry policy span name className arguments).events =
        (checkName policy session name).events ++
          [.runningConstructor (session.expandClass className.value) params,
            .constructedEntity name.value (session.expandClass className.value)
              connectors] := by
  obtain ⟨constructor, selects, builds⟩ := Registry.construct_eq_ok_iff_selects.1 built
  refine ⟨constructor.params, entity.connectors.elim 0 Table.size, ?_⟩
  unfold declare
  rw [Logged.events_bind_ok _ (checkName_eq_ok_iff.2 fresh)]
  dsimp only
  rw [Registry.construct_of_selects selects, builds]
  rfl

variable [Scalar α]

theorem events_place_absolute
    {name : Located Name}
    {position : Vec3 α}
    {found : Found α}
    (isFound : session.lookup name = .ok found) :
    (session.place name position none).events = [.placedEntity name.value position] := by
  simp only [place, isFound, Logged.liftM_ok_bind]
  rfl

theorem events_place_relative
    {name origin : Located Name}
    {position : Vec3 α}
    {found reference : Found α}
    (isFound : session.lookup name = .ok found)
    (isReference : session.lookup origin = .ok reference) :
    (session.place name position (some origin)).events =
      [.placedEntity name.value (position + reference.placed.position)] := by
  simp only [place, isFound, isReference, Logged.liftM_ok_bind]
  rfl

theorem events_connect
    {moved movedConnector base baseConnector : Located Name}
    {movedEntity baseEntity : Found α}
    {movedSocket baseSocket : Connector α}
    (isMoved : session.lookup moved = .ok movedEntity)
    (isBase : session.lookup base = .ok baseEntity)
    (isMovedSocket : connector movedEntity.placed moved movedConnector = .ok movedSocket)
    (isBaseSocket : connector baseEntity.placed base baseConnector = .ok baseSocket) :
    (session.connect moved movedConnector base baseConnector).events =
      [.connectedEntities moved.value base.value
        (Connector.matedTransform baseEntity.placed.transform baseSocket
          movedSocket).position] := by
  simp only [connect, isMoved, isBase, isMovedSocket, isBaseSocket, Logged.liftM_ok_bind]
  rfl

end Session

end LevelScript
