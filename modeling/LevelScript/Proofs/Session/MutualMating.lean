import LevelScript.Proofs.Session.Independence
import LevelScript.Proofs.Session.Mating

namespace LevelScript

/-!
# Mating back

A connection moves one entity to another so that two connectors meet. Where they meet already,
the other entity need not be moved to meet the first one: once a connection has been made, making
it again in either direction changes nothing.
-/

/-- A statement connects one name's connector to another's. -/
def Located.Connects
    {α : Type}
    (statement : Located (Statement α))
    (moved movedConnector base baseConnector : Name) :
    Prop :=
  match statement.value with
  | .connection first firstConnector second secondConnector =>
      first.value = moved ∧ firstConnector.value = movedConnector ∧
        second.value = base ∧ secondConnector.value = baseConnector
  | _ => False

namespace Session

section Offers

variable {α : Type}

/-- A name stands for an entity that has a connector of the given name. -/
structure Offers
    (session : Session α)
    (name connectorName : Name)
    (found : Found α)
    (socket : Connector α) :
    Prop where
  isNamed : session.names.get? name = some found.index
  isPlaced : session.entities[found.index]? = some found.placed
  hasSocket : found.placed.socket? connectorName = some socket

variable {session : Session α} {name connectorName : Name} {found : Found α}
  {socket : Connector α}

theorem Offers.lookup
    (offers : session.Offers name connectorName found socket)
    {located : Located Name}
    (isName : located.value = name) :
    session.lookup located = .ok found := by
  subst isName
  exact lookup_eq_ok_iff.2 ⟨offers.isNamed, offers.isPlaced⟩

/-- An entity has the same connectors wherever it is. -/
theorem Offers.move
    (offers : session.Offers name connectorName found socket)
    (transform : Transform α) :
    (session.move found transform).Offers name connectorName
      ⟨found.index, found.placed.withTransform transform⟩ socket :=
  ⟨offers.isNamed, getElem?_move_self found offers.isPlaced transform, offers.hasSocket⟩

/-- An entity stays as it is when another one is moved. -/
theorem Offers.move_of_ne
    (offers : session.Offers name connectorName found socket)
    {other : Found α}
    (different : other.index ≠ found.index)
    (transform : Transform α) :
    (session.move other transform).Offers name connectorName found socket :=
  ⟨offers.isNamed, (getElem?_move_of_ne different transform).trans offers.isPlaced,
    offers.hasSocket⟩

/-- A connection succeeds where both names stand for entities with the connectors. -/
theorem Offers.succeeds
    [Scalar α]
    {registry : Registry α}
    {policy : RedeclarationPolicy}
    {statement : Located (Statement α)}
    {base baseConnector : Name}
    {reference : Found α}
    {baseSocket : Connector α}
    (offers : session.Offers name connectorName found socket)
    (baseOffers : session.Offers base baseConnector reference baseSocket)
    (connects : statement.Connects name connectorName base baseConnector) :
    Succeeds registry policy session statement
      (session.move found
        (Connector.matedTransform reference.placed.transform baseSocket socket)) := by
  obtain ⟨value, span⟩ := statement
  cases value with
  | connection moved movedConnector second secondConnector =>
      obtain ⟨isMoved, rfl, isBase, rfl⟩ := connects
      exact
        .connection (offers.lookup isMoved) (baseOffers.lookup isBase)
          (connector_eq_ok_iff.2 offers.hasSocket) (connector_eq_ok_iff.2 baseOffers.hasSocket)
  | _ =>
      exact connects.elim

end Offers

section Mated

open scoped Exact

variable {K : Type} [Field K] {registry : Registry K} {policy : RedeclarationPolicy}
  {session : Session K} {first firstConnector second secondConnector : Name}

/-- Two entities are where a connection of the first one to the second one leaves them. -/
def Mated
    (session : Session K)
    (first firstConnector second secondConnector : Name) :
    Prop :=
  ∃ firstEntity secondEntity firstSocket secondSocket,
    session.Offers first firstConnector firstEntity firstSocket ∧
      session.Offers second secondConnector secondEntity secondSocket ∧
      firstSocket.offset.toMatrix.det ≠ 0 ∧
      secondSocket.offset.toMatrix.det ≠ 0 ∧
      firstEntity.placed.transform =
        Connector.matedTransform secondEntity.placed.transform secondSocket firstSocket

/-- What is mated one way round is mated the other way round. -/
theorem Mated.symm
    (mated : session.Mated first firstConnector second secondConnector) :
    session.Mated second secondConnector first firstConnector := by
  obtain ⟨firstEntity, secondEntity, firstSocket, secondSocket, firstOffers, secondOffers,
    firstInvertible, secondInvertible, isMated⟩ := mated
  refine ⟨_, _, _, _, secondOffers, firstOffers, secondInvertible, firstInvertible, ?_⟩
  rw [isMated, Connector.matedTransform_matedTransform _ secondInvertible firstInvertible]

/-- A connection of entities that are mated already changes nothing. -/
theorem Mated.succeeds
    {statement : Located (Statement K)}
    (mated : session.Mated first firstConnector second secondConnector)
    (connects : statement.Connects first firstConnector second secondConnector) :
    Succeeds registry policy session statement session := by
  obtain ⟨firstEntity, secondEntity, firstSocket, secondSocket, firstOffers, secondOffers,
    _, _, isMated⟩ := mated
  have succeeds :
      Succeeds registry policy session statement
        (session.move firstEntity
          (Connector.matedTransform secondEntity.placed.transform secondSocket firstSocket)) :=
    firstOffers.succeeds secondOffers connects
  rwa [← isMated, move_self firstEntity firstOffers.isPlaced] at succeeds

/-- So do any number of such connections, in whatever direction each of them is. -/
theorem Mated.run
    {statements : List (Located (Statement K))}
    (mated : session.Mated first firstConnector second secondConnector)
    (connect : ∀ statement ∈ statements,
      statement.Connects first firstConnector second secondConnector ∨
        statement.Connects second secondConnector first firstConnector) :
    (session.run registry policy statements).outcome = .ok session := by
  induction statements with
  | nil =>
      rfl
  | cons statement rest inductionHypothesis =>
      have connectRest := fun other member => connect other (List.mem_cons_of_mem _ member)
      refine run_cons_eq_ok_iff.2 ⟨session, ?_, inductionHypothesis connectRest⟩
      cases connect statement (List.mem_cons_self ..) with
      | inl connects =>
          exact mated.succeeds connects
      | inr connects =>
          exact mated.symm.succeeds connects

/--
In exact arithmetic connecting two entities back leaves both where the first connection has left
them. So only the entity that is moved first changes, and a third connection changes nothing.
-/
theorem run_connections_back
    {firstEntity secondEntity : Found K}
    {firstSocket secondSocket : Connector K}
    {forth back again : Located (Statement K)}
    (firstOffers : session.Offers first firstConnector firstEntity firstSocket)
    (secondOffers : session.Offers second secondConnector secondEntity secondSocket)
    (different : firstEntity.index ≠ secondEntity.index)
    (firstInvertible : firstSocket.offset.toMatrix.det ≠ 0)
    (secondInvertible : secondSocket.offset.toMatrix.det ≠ 0)
    (connectsForth : forth.Connects first firstConnector second secondConnector)
    (connectsBack : back.Connects second secondConnector first firstConnector)
    (connectsAgain : again.Connects first firstConnector second secondConnector) :
    ∃ after,
      (session.run registry policy [forth]).outcome = .ok after ∧
        (session.run registry policy [forth, back]).outcome = .ok after ∧
        (session.run registry policy [forth, back, again]).outcome = .ok after ∧
        after.aliases = session.aliases ∧
        after.names = session.names ∧
        ∀ index,
          index ≠ firstEntity.index → after.entities[index]? = session.entities[index]? := by
  let after :=
    session.move firstEntity
      (Connector.matedTransform secondEntity.placed.transform secondSocket firstSocket)
  have mated : after.Mated first firstConnector second secondConnector :=
    ⟨_, _, _, _, firstOffers.move _, secondOffers.move_of_ne different _, firstInvertible,
      secondInvertible, rfl⟩
  have runs : ∀ later : List (Located (Statement K)),
      (∀ statement ∈ later,
        statement.Connects first firstConnector second secondConnector ∨
          statement.Connects second secondConnector first firstConnector) →
      (session.run registry policy (forth :: later)).outcome = .ok after := by
    intro later connect
    have succeeds : Succeeds registry policy session forth after :=
      firstOffers.succeeds secondOffers connectsForth
    exact run_cons_eq_ok_iff.2 ⟨after, succeeds, mated.run connect⟩
  refine ⟨after, runs [] ?_, runs [back] ?_, runs [back, again] ?_, rfl, rfl, ?_⟩
  · simp
  · simp [connectsBack]
  · simp [connectsBack, connectsAgain]
  · intro index elsewhere
    exact getElem?_move_of_ne (Ne.symm elsewhere) _

/-- One of two rails is put somewhere else. -/
def railsApart : List (Located (Statement ℚ)) :=
  twoRails ++ [.unplaced (.placement (.unplaced ⟨"b"⟩) (.unplaced ⟨1, 2, 3⟩) none)]

/-- One end of a rail is joined to an end of another one. -/
def railOnto
    (moved movedEnd base baseEnd : String) :
    Located (Statement ℚ) :=
  .unplaced
    (.connection (.unplaced ⟨moved⟩) (.unplaced ⟨movedEnd⟩) (.unplaced ⟨base⟩)
      (.unplaced ⟨baseEnd⟩))

/-- The tail of one rail is joined to the head of the other, that to it, and again. -/
theorem run_connections_back_rails :
    ∃ (session after : Session ℚ) (firstEntity secondEntity : Found ℚ)
      (firstSocket secondSocket : Connector ℚ),
      (empty.run (Registry.ofSchema [railSchema]) .reject railsApart).outcome = .ok session ∧
        session.Offers ⟨"a"⟩ ⟨"tail"⟩ firstEntity firstSocket ∧
        session.Offers ⟨"b"⟩ ⟨"head"⟩ secondEntity secondSocket ∧
        firstEntity.index ≠ secondEntity.index ∧
        firstSocket.offset.toMatrix.det ≠ 0 ∧
        secondSocket.offset.toMatrix.det ≠ 0 ∧
        (session.run (Registry.ofSchema [railSchema]) .reject
            [railOnto "a" "tail" "b" "head", railOnto "b" "head" "a" "tail"]).outcome =
          .ok after ∧
        (session.run (Registry.ofSchema [railSchema]) .reject
            [railOnto "a" "tail" "b" "head", railOnto "b" "head" "a" "tail",
              railOnto "a" "tail" "b" "head"]).outcome =
          .ok after := by
  obtain ⟨session, firstEntity, secondEntity, ran, firstOffers, secondOffers, different⟩ :
      ∃ session firstEntity secondEntity,
        (empty.run (Registry.ofSchema [railSchema]) .reject railsApart).outcome = .ok session ∧
          session.Offers ⟨"a"⟩ ⟨"tail"⟩ firstEntity ⟨Transform.ofPosition ⟨-1, 0, 0⟩⟩ ∧
          session.Offers ⟨"b"⟩ ⟨"head"⟩ secondEntity ⟨Transform.ofPosition ⟨1, 0, 0⟩⟩ ∧
          firstEntity.index ≠ secondEntity.index :=
    ⟨_, ⟨0, _⟩, ⟨1, _⟩, rfl, ⟨rfl, rfl, rfl⟩, ⟨rfl, rfl, rfl⟩, by decide⟩
  have tailInvertible : (Transform.ofPosition (⟨-1, 0, 0⟩ : Vec3 ℚ)).toMatrix.det ≠ 0 := by
    rw [← Transform.determinant_eq_det]
    decide +kernel
  have headInvertible : (Transform.ofPosition (⟨1, 0, 0⟩ : Vec3 ℚ)).toMatrix.det ≠ 0 := by
    rw [← Transform.determinant_eq_det]
    decide +kernel
  have forth : (railOnto "a" "tail" "b" "head").Connects ⟨"a"⟩ ⟨"tail"⟩ ⟨"b"⟩ ⟨"head"⟩ :=
    ⟨rfl, rfl, rfl, rfl⟩
  have back : (railOnto "b" "head" "a" "tail").Connects ⟨"b"⟩ ⟨"head"⟩ ⟨"a"⟩ ⟨"tail"⟩ :=
    ⟨rfl, rfl, rfl, rfl⟩
  obtain ⟨after, _, ranBack, ranAgain, _⟩ :=
    run_connections_back firstOffers secondOffers different tailInvertible headInvertible
      forth back forth
  exact
    ⟨session, after, firstEntity, secondEntity, _, _, ran, firstOffers, secondOffers, different,
      tailInvertible, headInvertible, ranBack, ranAgain⟩

end Mated

end Session

end LevelScript
