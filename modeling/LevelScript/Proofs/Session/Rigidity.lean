import LevelScript.Proofs.Construction.Schema
import LevelScript.Proofs.Geometry.Rigid
import LevelScript.Proofs.Session.Effect
import LevelScript.Proofs.Session.Mating

namespace LevelScript

/-!
# Rigid levels

Where constructors build rigid entities, every entity of a level is rigid, however often it
is moved. No connection checks that the offset it undoes can be undone; that it always can
rests on this invariant.
-/

open scoped Exact

variable {K : Type} [Field K]

/-- The transform of an entity and the offsets of all its connectors are rigid. -/
structure Entity.IsRigid
    (entity : Entity K) :
    Prop where
  transform : entity.transform.IsRigid
  offsets : ∀ name socket,
    entity.connectors.bind (·.get? name) = some socket → socket.offset.IsRigid

/-- What a registered constructor builds from arguments that it accepts is rigid. -/
def Registry.BuildsRigid
    (registry : Registry K) :
    Prop :=
  ∀ className entityClass constructor arguments entity,
    registry.lookup className = .found entityClass →
      constructor ∈ entityClass.constructors →
      constructor.accepts arguments →
      constructor.build arguments = .ok entity →
      entity.IsRigid

theorem Registry.BuildsRigid.construct
    {registry : Registry K}
    (buildsRigid : registry.BuildsRigid)
    {className : Name}
    {arguments : List (Literal K)}
    {span : Span}
    {entity : Entity K}
    (built : (registry.construct className arguments span).outcome = .ok entity) :
    entity.IsRigid := by
  obtain ⟨entityClass, constructor, isClass, isFirst, builds⟩ := construct_eq_ok_iff.1 built
  obtain ⟨isMember, accepts⟩ := mem_and_accepts_of_findConstructor? isFirst
  exact buildsRigid _ _ _ _ _ isClass isMember accepts builds

/-- Probes start at the origin and their connectors are translations. -/
theorem ClassSchema.isRigid_probe
    (schema : ClassSchema K) :
    schema.probe.IsRigid where
  transform := .ofPosition _
  offsets := by
    intro name socket isSocket
    obtain ⟨connectors, declared, stored⟩ := Option.bind_eq_some_iff.1 isSocket
    obtain ⟨declaredConnectors, _, rfl⟩ := Option.map_eq_some_iff.1 declared
    rw [ConnectorSchema.get?_ofList] at stored
    obtain ⟨connector, _, rfl⟩ := Option.map_eq_some_iff.1 stored
    exact .ofPosition connector.position

theorem Registry.buildsRigid_ofSchema
    (classes : List (ClassSchema K)) :
    (ofSchema classes).BuildsRigid := by
  intro className entityClass constructor arguments entity isClass member _ builds
  obtain ⟨schema, _, rfl⟩ := exists_schema_of_lookup isClass
  obtain ⟨params, _, rfl⟩ := List.mem_map.1 member
  cases builds
  exact schema.isRigid_probe

namespace Session

/-- All entities of a session are rigid. -/
def IsRigid
    (session : Session K) :
    Prop :=
  ∀ placed ∈ session.entities, placed.entity.IsRigid

theorem isRigid_empty :
    IsRigid (empty : Session K) := by
  intro placed member
  cases member

namespace IsRigid

variable {registry : Registry K} {policy : RedeclarationPolicy} {session next : Session K}

theorem lookup
    (rigid : session.IsRigid)
    {name : Located Name}
    {found : Found K}
    (isFound : session.lookup name = .ok found) :
    found.placed.entity.IsRigid :=
  forall_lookup rigid isFound

theorem connector
    {placed : PlacedEntity K}
    (rigid : placed.entity.IsRigid)
    {entity name : Located Name}
    {socket : Connector K}
    (isSocket : Session.connector placed entity name = .ok socket) :
    socket.offset.IsRigid :=
  rigid.offsets name.value socket (connector_eq_ok_iff.1 isSocket)

/-- A statement that succeeds leaves all entities rigid. -/
theorem step
    (buildsRigid : registry.BuildsRigid)
    {statement : Located (Statement K)}
    (rigid : session.IsRigid)
    (succeeds : Succeeds registry policy session statement next) :
    next.IsRigid := by
  cases succeeds with
  | abbreviation _ =>
      exact rigid
  | declaration _ built =>
      exact forall_append rigid (buildsRigid.construct built)
  | absolute isFound =>
      have isRigid := rigid.lookup isFound
      exact forall_move rigid ⟨isRigid.transform.withPosition _, isRigid.offsets⟩
  | relative isFound _ =>
      have isRigid := rigid.lookup isFound
      exact forall_move rigid ⟨isRigid.transform.withPosition _, isRigid.offsets⟩
  | connection isMoved isBase isMovedSocket isBaseSocket =>
      have movedRigid := rigid.lookup isMoved
      have baseRigid := rigid.lookup isBase
      have world :=
        Connector.isRigid_matedTransform baseRigid.transform (connector baseRigid isBaseSocket)
          (connector movedRigid isMovedSocket)
      exact forall_move rigid ⟨world, movedRigid.offsets⟩

end IsRigid

/--
In exact arithmetic, where all constructors build rigid entities with rigid connectors, every
session that a run passes through has rigid entities only. A connection that finds the
connector of the entity it moves never divides by a determinant of zero, and it moves the
entity rigidly.
-/
theorem transforms_isRigid
    {registry : Registry K}
    (buildsRigid : registry.BuildsRigid)
    {policy : RedeclarationPolicy}
    {statements : List (Located (Statement K))}
    {session : Session K}
    (ran : (empty.run registry policy statements).outcome = .ok session) :
    (∀ placed ∈ session.entities, placed.transform.IsRigid) ∧
      ∀ (moved movedConnector base baseConnector : Located Name)
        (movedEntity baseEntity : Found K) (movedSocket baseSocket : Connector K),
        session.lookup moved = .ok movedEntity →
          session.lookup base = .ok baseEntity →
          connector movedEntity.placed moved movedConnector = .ok movedSocket →
          connector baseEntity.placed base baseConnector = .ok baseSocket →
          movedSocket.offset.determinant ≠ 0 ∧
            (Connector.matedTransform baseEntity.placed.transform baseSocket
              movedSocket).IsRigid := by
  have rigid : session.IsRigid :=
    invariant_of_run (IsRigid.step buildsRigid) isRigid_empty ran
  constructor
  · intro placed member
    exact (rigid placed member).transform
  · intro moved movedConnector base baseConnector movedEntity baseEntity movedSocket baseSocket
      isMoved isBase isMovedSocket isBaseSocket
    have rigidMoved := IsRigid.connector (rigid.lookup isMoved) isMovedSocket
    have rigidBase := IsRigid.connector (rigid.lookup isBase) isBaseSocket
    have rigidWorld := (rigid.lookup isBase).transform
    exact
      ⟨rigidMoved.determinant_ne_zero,
        Connector.isRigid_matedTransform rigidWorld rigidBase rigidMoved⟩

/-- The tail of one rail is joined to the head of the other. -/
def railsJoined : List (Located (Statement ℚ)) :=
  twoRails ++
    [.unplaced
      (.connection (.unplaced ⟨"a"⟩) (.unplaced ⟨"tail"⟩) (.unplaced ⟨"b"⟩)
        (.unplaced ⟨"head"⟩))]

/-- Both rails are rigid once they are joined, and their connectors can be mated again. -/
theorem transforms_isRigid_rails :
    ∃ (session : Session ℚ) (movedEntity : Found ℚ) (movedSocket : Connector ℚ),
      (Registry.ofSchema [railSchema]).BuildsRigid ∧
        (empty.run (Registry.ofSchema [railSchema]) .reject railsJoined).outcome =
          .ok session ∧
        (∀ placed ∈ session.entities, placed.transform.IsRigid) ∧
        session.lookup (.unplaced ⟨"a"⟩) = .ok movedEntity ∧
        connector movedEntity.placed (.unplaced ⟨"a"⟩) (.unplaced ⟨"tail"⟩) =
          .ok movedSocket ∧
        movedSocket.offset.determinant ≠ 0 := by
  have buildsRigid := Registry.buildsRigid_ofSchema [railSchema]
  obtain ⟨session, ran⟩ : ∃ session,
      (empty.run (Registry.ofSchema [railSchema]) .reject railsJoined).outcome = .ok session :=
    ⟨_, rfl⟩
  obtain ⟨rigid, divides⟩ := transforms_isRigid buildsRigid ran
  cases ran
  obtain ⟨nonzero, _⟩ :=
    divides (.unplaced ⟨"a"⟩) (.unplaced ⟨"tail"⟩) (.unplaced ⟨"b"⟩) (.unplaced ⟨"head"⟩) _ _ _ _
      rfl rfl rfl rfl
  exact ⟨_, _, _, buildsRigid, rfl, rigid, rfl, rfl, nonzero⟩

end Session

end LevelScript
