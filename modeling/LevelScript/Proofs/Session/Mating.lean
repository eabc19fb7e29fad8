import Mathlib.Algebra.Field.Rat
import LevelScript.Proofs.Geometry.Mating
import LevelScript.Proofs.Session.Transition
import LevelScript.Schema

namespace LevelScript.Session

/-!
# Connections

A connection that succeeds leaves the two connectors face to face, wherever the two entities
were before.
-/

open scoped Exact

section

variable {K : Type} [Field K] {registry : Registry K} {policy : RedeclarationPolicy}
  {session next : Session K}

/-- The pose in the level's space of a connector of an entity. -/
def Found.socketPose
    (found : Found K)
    (socket : Connector K) :
    Transform K :=
  found.placed.transform * socket.offset

/-- After a connection the connectors of two different entities meet. -/
theorem exists_meets_of_succeeds
    {moved movedConnector base baseConnector : Located Name}
    {span : Span}
    (succeeds :
      Succeeds registry policy session
        ⟨.connection moved movedConnector base baseConnector, span⟩ next) :
    ∃ movedEntity baseEntity movedSocket baseSocket,
      next.lookup moved = .ok movedEntity ∧
        next.lookup base = .ok baseEntity ∧
        connector movedEntity.placed moved movedConnector = .ok movedSocket ∧
        connector baseEntity.placed base baseConnector = .ok baseSocket ∧
        (movedEntity.index ≠ baseEntity.index →
          movedSocket.offset.toMatrix.det ≠ 0 →
          (movedEntity.socketPose movedSocket).Meets (baseEntity.socketPose baseSocket)) := by
  cases succeeds with
  | @connection _ _ _ _ _ movedEntity baseEntity movedSocket baseSocket
      isMoved isBase isMovedSocket isBaseSocket =>
      have movedAfter := lookup_move isMoved isMoved
        (Connector.matedTransform baseEntity.placed.transform baseSocket movedSocket)
      have baseAfter := lookup_move isMoved isBase
        (Connector.matedTransform baseEntity.placed.transform baseSocket movedSocket)
      rw [if_pos rfl] at movedAfter
      refine ⟨_, _, movedSocket, baseSocket, movedAfter, baseAfter, isMovedSocket, ?_, ?_⟩
      · dsimp only
        split
        · exact isBaseSocket
        · exact isBaseSocket
      · intro different invertible
        dsimp only [Found.socketPose] at different ⊢
        rw [if_neg (Ne.symm different)]
        exact Connector.meets_of_matedTransform _ _ invertible

end

/--
In exact arithmetic the mated transform is the only one that takes the moved connector to
the base's, half a turn round. Hence every run that ends in a connection of two different
entities leaves their connectors face to face, if the moved one's offset can be undone.
-/
theorem connectors_meet
    (K : Type)
    [Field K] :
    (∀ (world transform : Transform K) (base moved : Connector K),
      moved.offset.toMatrix.det ≠ 0 →
        (transform * moved.offset = world * base.offset * Connector.flip ↔
          transform = Connector.matedTransform world base moved)) ∧
      ∀ (registry : Registry K) (policy : RedeclarationPolicy)
        (statements : List (Located (Statement K)))
        (moved movedConnector base baseConnector : Located Name) (span : Span)
        (session : Session K),
        (empty.run registry policy
            (statements ++
              [⟨.connection moved movedConnector base baseConnector, span⟩])).outcome =
          .ok session →
        ∃ movedEntity baseEntity movedSocket baseSocket,
          session.lookup moved = .ok movedEntity ∧
            session.lookup base = .ok baseEntity ∧
            connector movedEntity.placed moved movedConnector = .ok movedSocket ∧
            connector baseEntity.placed base baseConnector = .ok baseSocket ∧
            (movedEntity.index ≠ baseEntity.index →
              movedSocket.offset.toMatrix.det ≠ 0 →
              (movedEntity.socketPose movedSocket).Meets
                (baseEntity.socketPose baseSocket)) := by
  constructor
  · intro world transform base moved invertible
    exact Connector.mul_offset_eq_iff invertible
  · intro registry policy statements moved movedConnector base baseConnector span session ran
    obtain ⟨between, _, succeeds⟩ := run_concat_eq_ok_iff.1 ran
    exact exists_meets_of_succeeds succeeds

/-- A rail of length two with a connector at either end. -/
def railSchema : ClassSchema ℚ where
  name := ⟨"Rail"⟩
  constructors := [[]]
  connectors := some [⟨⟨"tail"⟩, ⟨-1, 0, 0⟩⟩, ⟨⟨"head"⟩, ⟨1, 0, 0⟩⟩]

/-- The declarations of two rails. -/
def twoRails : List (Located (Statement ℚ)) :=
  [.unplaced (.declaration (.unplaced ⟨"a"⟩) (.unplaced ⟨"Rail"⟩) []),
    .unplaced (.declaration (.unplaced ⟨"b"⟩) (.unplaced ⟨"Rail"⟩) [])]

/-- The tail of one rail is joined to the head of the other. -/
theorem connectors_meet_rails :
    ∃ (session : Session ℚ) (movedEntity baseEntity : Found ℚ)
      (movedSocket baseSocket : Connector ℚ),
      (empty.run (Registry.ofSchema [railSchema]) .reject
          (twoRails ++
            [⟨.connection (.unplaced ⟨"a"⟩) (.unplaced ⟨"tail"⟩) (.unplaced ⟨"b"⟩)
                (.unplaced ⟨"head"⟩), .origin⟩])).outcome =
          .ok session ∧
        movedEntity.index ≠ baseEntity.index ∧
        movedSocket.offset.toMatrix.det ≠ 0 ∧
        movedEntity.placed.transform * movedSocket.offset =
          baseEntity.placed.transform * baseSocket.offset * Connector.flip ∧
        (movedEntity.socketPose movedSocket).Meets (baseEntity.socketPose baseSocket) := by
  obtain ⟨movedEntity, baseEntity, movedSocket, baseSocket, isMoved, isBase, isMovedSocket,
    isBaseSocket, meets⟩ :=
      (connectors_meet ℚ).2 (Registry.ofSchema [railSchema]) .reject twoRails
        (.unplaced ⟨"a"⟩) (.unplaced ⟨"tail"⟩) (.unplaced ⟨"b"⟩) (.unplaced ⟨"head"⟩) .origin
        _ rfl
  cases isMoved
  cases isBase
  cases isMovedSocket
  cases isBaseSocket
  have different : (0 : Nat) ≠ 1 := by
    decide
  have invertible :
      (Transform.ofPosition (⟨-1, 0, 0⟩ : Vec3 ℚ)).toMatrix.det ≠ 0 := by
    rw [← Transform.determinant_eq_det]
    decide +kernel
  exact
    ⟨_, _, _, _, _, rfl, different, invertible,
      ((connectors_meet ℚ).1 _ _ _ _ invertible).2 rfl, meets different invertible⟩

end LevelScript.Session
