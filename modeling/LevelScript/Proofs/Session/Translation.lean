import LevelScript.Proofs.Geometry.Translation
import LevelScript.Proofs.Session.Coordinates
import LevelScript.Proofs.Session.Rigidity

namespace LevelScript

/-!
# Assemblies that move as one

A connection and a relative placement put an entity where another one is, so it does not
matter whether all entities are moved before or after. Every transform that such statements
leave is given in terms of a transform that they have found; to read positions off them, they
have to stay affine.
-/

open scoped Exact

variable {K : Type} [Field K]

/-- A statement that moves an entity to where another one is. -/
inductive Statement.Attaches :
    Statement α → Prop where
  | connection
      (moved movedConnector base baseConnector : Located Name) :
      Attaches (.connection moved movedConnector base baseConnector)
  | placement
      (name : Located Name)
      (position : Located (Vec3 α))
      (origin : Located Name) :
      Attaches (.placement name position (some origin))

/-- The transform of an entity is affine, and so are the offsets of its connectors, all of
which can be undone. -/
structure Entity.IsAffine
    (entity : Entity K) :
    Prop where
  transform : entity.transform.IsAffine
  offsets : ∀ name socket,
    entity.connectors.bind (·.get? name) = some socket →
      socket.offset.IsAffine ∧ socket.offset.toMatrix.det ≠ 0

theorem Entity.IsRigid.isAffine
    {entity : Entity K}
    (rigid : entity.IsRigid) :
    entity.IsAffine where
  transform := rigid.transform.affine
  offsets name socket isSocket :=
    ⟨(rigid.offsets name socket isSocket).affine,
      (rigid.offsets name socket isSocket).det_ne_zero⟩

namespace Session

/-- All entities of a session are affine. -/
def IsAffine
    (session : Session K) :
    Prop :=
  ∀ placed ∈ session.entities, placed.entity.IsAffine

/-- Sessions that look alike, in which all transforms differ by one translation. -/
structure Translated
    (distance : Vec3 K)
    (session counterpart : Session K) :
    Prop extends SameDeclared session counterpart where
  transforms :
    counterpart.entities.map PlacedEntity.transform =
      session.entities.map fun placed => placed.transform.translated distance

/-- The session with all entities moved by a vector. -/
def translate
    (distance : Vec3 K)
    (session : Session K) :
    Session K :=
  { session with
    entities := session.entities.map fun placed =>
      { placed with
        entity := { placed.entity with transform := placed.transform.translated distance } } }

theorem translated_translate
    (distance : Vec3 K)
    (session : Session K) :
    session.Translated distance (session.translate distance) where
  aliases := rfl
  names := rfl
  entities := by
    rw [translate, List.map_map]
    rfl
  transforms := by
    rw [translate, List.map_map]
    rfl

/-! ## Affine entities -/

namespace IsAffine

variable {registry : Registry K} {policy : RedeclarationPolicy} {session next : Session K}

theorem connector
    {placed : PlacedEntity K}
    (affine : placed.entity.IsAffine)
    {entity name : Located Name}
    {socket : Connector K}
    (isSocket : Session.connector placed entity name = .ok socket) :
    socket.offset.IsAffine ∧ socket.offset.toMatrix.det ≠ 0 :=
  affine.offsets name.value socket (connector_eq_ok_iff.1 isSocket)

/-- A statement that attaches an entity leaves all entities affine. -/
theorem step
    {statement : Located (Statement K)}
    (affine : session.IsAffine)
    (attaches : statement.value.Attaches)
    (succeeds : Succeeds registry policy session statement next) :
    next.IsAffine := by
  cases succeeds with
  | abbreviation _ =>
      cases attaches
  | declaration _ _ =>
      cases attaches
  | absolute _ =>
      cases attaches
  | relative isFound _ =>
      have isAffine := forall_lookup affine isFound
      exact forall_move affine ⟨isAffine.transform.withPosition _, isAffine.offsets⟩
  | connection isMoved isBase isMovedSocket isBaseSocket =>
      have movedAffine := forall_lookup affine isMoved
      have baseAffine := forall_lookup affine isBase
      obtain ⟨affineSocket, invertible⟩ := connector movedAffine isMovedSocket
      have world :=
        Connector.isAffine_matedTransform baseAffine.transform
          (connector baseAffine isBaseSocket).1 affineSocket invertible
      exact forall_move affine ⟨world, movedAffine.offsets⟩

end IsAffine

/-! ## One statement -/

namespace Translated

variable {distance : Vec3 K} {session counterpart : Session K}

/-- A name stands for entities that look alike, of which the second one is translated. -/
theorem related_lookup
    (translated : session.Translated distance counterpart)
    (name : Located Name) :
    Outcome.Related
      (fun found other =>
        session.lookup name = .ok found ∧
          counterpart.lookup name = .ok other ∧
          found.placed.declared = other.placed.declared ∧
          other.placed.transform = found.placed.transform.translated distance)
      (session.lookup name) (counterpart.lookup name) := by
  have sameViews :
      (session.entities.map fun placed =>
          (placed.declared, placed.transform.translated distance)) =
        counterpart.entities.map fun placed => (placed.declared, placed.transform) := by
    have sameRows := congrArg₂ List.zip translated.entities translated.transforms.symm
    rwa [List.zip_map', List.zip_map'] at sameRows
  refine (Session.related_lookup translated.names sameViews name).imp ?_
  rintro found other ⟨isFound, isOther, sameView⟩
  obtain ⟨sameDeclared, sameTransform⟩ := Prod.mk.inj sameView
  exact ⟨isFound, isOther, sameDeclared, sameTransform.symm⟩

/-- An entity that is moved to a translated transform is translated. -/
theorem move
    (translated : session.Translated distance counterpart)
    {name : Located Name}
    {found other : Found K}
    (isFound : session.lookup name = .ok found)
    (isOther : counterpart.lookup name = .ok other)
    (transform : Transform K) :
    (session.move found transform).Translated distance
      (counterpart.move other (transform.translated distance)) where
  toSameDeclared := translated.toSameDeclared.move isFound isOther _ _
  transforms := by
    have isIndex := (lookup_eq_ok_iff.1 isFound).1
    rw [translated.names, (lookup_eq_ok_iff.1 isOther).1, Option.some.injEq] at isIndex
    simp only [Session.move, List.map_set, translated.transforms, isIndex]
    rfl

/-- The position of a translated entity is translated, and so is what is placed next to it. -/
theorem place
    (affine : session.IsAffine)
    (translated : session.Translated distance counterpart)
    (name : Located Name)
    (position : Vec3 K)
    (origin : Located Name) :
    Outcome.Related (Translated distance) (session.place name position (some origin)).outcome
      (counterpart.place name position (some origin)).outcome := by
  unfold Session.place
  simp only [Logged.outcome_bind, Logged.outcome_monadLift]
  refine (translated.related_lookup name).bind ?_
  rintro found other ⟨isFound, isOther, _, isTranslated⟩
  refine (translated.related_lookup origin).bind ?_
  rintro reference otherReference ⟨isReference, _, _, isReferenceTranslated⟩
  have affineFound : found.placed.transform.IsAffine :=
    (forall_lookup affine isFound).transform
  have affineReference : reference.placed.transform.IsAffine :=
    (forall_lookup affine isReference).transform
  have target :
      position + otherReference.placed.position =
        distance + (position + reference.placed.position) := by
    rw [PlacedEntity.position, isReferenceTranslated, affineReference.position_translated,
      Vec3.add_left_comm]
    rfl
  have moved :=
    translated.move isFound isOther
      (found.placed.transform.withPosition (position + reference.placed.position))
  rw [affineFound.translated_withPosition, ← target, ← isTranslated] at moved
  exact .ok moved

/-- A connection takes the transform of the base and hands it on. -/
theorem connect
    (translated : session.Translated distance counterpart)
    (moved movedConnector base baseConnector : Located Name) :
    Outcome.Related (Translated distance)
      (session.connect moved movedConnector base baseConnector).outcome
      (counterpart.connect moved movedConnector base baseConnector).outcome := by
  unfold Session.connect
  simp only [Logged.outcome_bind, Logged.outcome_monadLift]
  refine (translated.related_lookup moved).bind ?_
  rintro movedEntity otherMoved ⟨isMoved, isOtherMoved, movedAlike, _⟩
  refine (translated.related_lookup base).bind ?_
  rintro baseEntity otherBase ⟨_, _, baseAlike, isTranslated⟩
  rw [connector_congr movedAlike, connector_congr baseAlike]
  refine .after _ fun movedSocket => ?_
  refine .after _ fun baseSocket => ?_
  rw [isTranslated, Connector.matedTransform_translated]
  exact .ok (translated.move isMoved isOtherMoved _)

/-- A statement that attaches an entity ends alike in a translated session. -/
theorem step
    (affine : session.IsAffine)
    (translated : session.Translated distance counterpart)
    (registry : Registry K)
    (policy : RedeclarationPolicy)
    {statement : Located (Statement K)}
    (attaches : statement.value.Attaches) :
    Outcome.Related (Translated distance) (session.step registry policy statement).outcome
      (counterpart.step registry policy statement).outcome := by
  obtain ⟨value, span⟩ := statement
  unfold Session.step
  simp only [Logged.outcome_bind, Logged.outcome_emit]
  cases attaches with
  | connection moved movedConnector base baseConnector =>
      exact translated.connect moved movedConnector base baseConnector
  | placement name position origin =>
      exact translated.place affine name position.value origin

end Translated

/-! ## Runs -/

/--
In exact arithmetic, let two sessions have the same names, abbreviations, classes and
connectors, and let every transform of the second one be that of the first one moved by one
vector. Statements that attach entities to others fail in both with the same error, or they
succeed in both and leave every transform of the second one moved by that vector again.
-/
theorem run_translated
    (registry : Registry K)
    (policy : RedeclarationPolicy)
    {distance : Vec3 K}
    {session counterpart : Session K}
    (affine : session.IsAffine)
    (translated : session.Translated distance counterpart)
    {statements : List (Located (Statement K))}
    (attach : ∀ statement ∈ statements, statement.value.Attaches) :
    Outcome.Related (Translated distance) (session.run registry policy statements).outcome
      (counterpart.run registry policy statements).outcome := by
  induction statements generalizing session counterpart with
  | nil =>
      exact .ok translated
  | cons statement rest inductionHypothesis =>
      rw [List.forall_mem_cons] at attach
      have related := translated.step affine registry policy attach.1
      simp only [Session.run, Logged.outcome_bind]
      generalize stepped : (session.step registry policy statement).outcome = outcome
        at related ⊢
      generalize (counterpart.step registry policy statement).outcome = otherOutcome
        at related ⊢
      cases related with
      | error error =>
          exact .error error
      | ok translatedNext =>
          have affineNext := affine.step attach.1 (step_eq_ok_iff.1 stepped)
          exact inductionHypothesis affineNext translatedNext attach.2

/-- One rail is joined to the other, which is then moved away from it. -/
def railsAttached : List (Located (Statement ℚ)) :=
  [.unplaced
      (.connection (.unplaced ⟨"a"⟩) (.unplaced ⟨"tail"⟩) (.unplaced ⟨"b"⟩)
        (.unplaced ⟨"head"⟩)),
    .unplaced
      (.placement (.unplaced ⟨"b"⟩) (.unplaced ⟨0, 3, 0⟩) (some (.unplaced ⟨"a"⟩)))]

/-- Two rails that have been moved are joined as they would have been before. -/
theorem run_translated_rails :
    ∃ session final other : Session ℚ,
      (empty.run (Registry.ofSchema [railSchema]) .reject twoRails).outcome = .ok session ∧
        session.IsAffine ∧
        session.Translated ⟨1, 2, 3⟩ (session.translate ⟨1, 2, 3⟩) ∧
        (∀ statement ∈ railsAttached, statement.value.Attaches) ∧
        (session.run (Registry.ofSchema [railSchema]) .reject railsAttached).outcome =
          .ok final ∧
        ((session.translate ⟨1, 2, 3⟩).run (Registry.ofSchema [railSchema]) .reject
            railsAttached).outcome =
          .ok other ∧
        final.Translated ⟨1, 2, 3⟩ other := by
  obtain ⟨session, ran⟩ : ∃ session,
      (empty.run (Registry.ofSchema [railSchema]) .reject twoRails).outcome = .ok session :=
    ⟨_, rfl⟩
  have rigid : session.IsRigid :=
    invariant_of_run (IsRigid.step (Registry.buildsRigid_ofSchema [railSchema]))
      isRigid_empty ran
  have affine : session.IsAffine := fun placed member => (rigid placed member).isAffine
  have translated := translated_translate ⟨1, 2, 3⟩ session
  have attach : ∀ statement ∈ railsAttached, statement.value.Attaches := by
    simp only [railsAttached, List.forall_mem_cons]
    exact ⟨.connection _ _ _ _, .placement _ _ _, List.forall_mem_nil _⟩
  have related :=
    run_translated (Registry.ofSchema [railSchema]) .reject affine translated attach
  cases ran
  cases related with
  | ok translatedFinal =>
      exact ⟨_, _, _, rfl, affine, translated, attach, rfl, rfl, translatedFinal⟩

end Session

end LevelScript
