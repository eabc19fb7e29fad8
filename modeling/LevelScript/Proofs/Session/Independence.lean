import LevelScript.Proofs.Session.Coordinates
import LevelScript.Proofs.Session.Effect

namespace LevelScript

namespace Session

/-!
# Statements that leave an entity alone

A statement looks at the tables and at where a few entities are, and it moves one entity at
most. One that neither looks at an entity nor moves it does the same wherever that entity is.
Hence two statements that move entities which the other one leaves alone may change places.
-/

variable {α : Type}

/-- What a statement does depends on where the entity at an index is. -/
def Reads
    (session : Session α)
    (statement : Located (Statement α))
    (index : Nat) :
    Prop :=
  match statement.value with
  -- The axes of the placed entity are kept, so it is read too.
  | .placement name _ relativeTo =>
      session.names.get? name.value = some index ∨
        ∃ origin, relativeTo = some origin ∧ session.names.get? origin.value = some index
  -- The moved entity takes nothing over from where it was.
  | .connection _ _ base _ => session.names.get? base.value = some index
  | _ => False

/-- A statement neither moves the entity at an index nor depends on where it is. -/
structure LeavesAlone
    (session : Session α)
    (statement : Located (Statement α))
    (index : Nat) :
    Prop where
  unmoved : session.movedIndex? statement ≠ some index
  unread : ¬session.Reads statement index

/-- Two statements move an entity each, and each leaves the other one's entity alone. -/
structure Independent
    (session : Session α)
    (first second : Located (Statement α)) :
    Prop where
  ofFirst : ∃ index, session.movedIndex? first = some index ∧ session.LeavesAlone second index
  ofSecond : ∃ index, session.movedIndex? second = some index ∧ session.LeavesAlone first index

/-! ## Motions -/

section Motions

variable {session : Session α}

/-- Moving an entity changes no other name's entity. -/
theorem lookup_move_of_ne
    {name : Located Name}
    (found : Found α)
    (elsewhere : session.names.get? name.value ≠ some found.index)
    (transform : Transform α) :
    (session.move found transform).lookup name = session.lookup name := by
  unfold lookup move
  dsimp only
  cases stored : session.names.get? name.value with
  | none =>
      rfl
  | some index =>
      have different : found.index ≠ index := by
        rintro rfl
        exact elsewhere stored
      dsimp only
      rw [List.getElem?_set_ne different]

/-- Motions of two entities may change places. -/
theorem move_comm
    (first second : Found α)
    (different : first.index ≠ second.index)
    (transform other : Transform α) :
    (session.move first transform).move second other =
      (session.move second other).move first transform := by
  unfold move
  dsimp only
  rw [List.set_comm _ _ different]

/-- Of two motions of an entity only the last one counts. -/
theorem move_move
    (session : Session α)
    (found : Found α)
    (transform other : Transform α) :
    (session.move found transform).move
        ⟨found.index, found.placed.withTransform transform⟩ other =
      session.move found other := by
  unfold move
  dsimp only
  rw [List.set_set]
  rfl

/-- An entity that is moved to where it is stays there. -/
theorem move_self
    (found : Found α)
    (isPlaced : session.entities[found.index]? = some found.placed) :
    session.move found found.placed.transform = session := by
  obtain ⟨inside, isHere⟩ := List.getElem?_eq_some_iff.1 isPlaced
  have same : session.entities.set found.index found.placed = session.entities := by
    rw [← isHere, List.set_getElem_self]
  exact congrArg (fun entities => { session with entities }) same

/-- An entity that is moved and then back to where it was has not been moved. -/
theorem move_back
    (found : Found α)
    (isPlaced : session.entities[found.index]? = some found.placed)
    (transform : Transform α) :
    (session.move found transform).move
        ⟨found.index, found.placed.withTransform transform⟩ found.placed.transform =
      session := by
  rw [move_move, move_self found isPlaced]

/-- The moved entity has the new transform. -/
theorem getElem?_move_self
    (found : Found α)
    (isPlaced : session.entities[found.index]? = some found.placed)
    (transform : Transform α) :
    (session.move found transform).entities[found.index]? =
      some (found.placed.withTransform transform) := by
  have inside := (List.getElem?_eq_some_iff.1 isPlaced).1
  unfold move
  exact List.getElem?_set_self inside

/-- All other entities stay as they are. -/
theorem getElem?_move_of_ne
    {found : Found α}
    {index : Nat}
    (different : found.index ≠ index)
    (transform : Transform α) :
    (session.move found transform).entities[index]? = session.entities[index]? := by
  unfold move
  exact List.getElem?_set_ne different

/-- A new entity comes behind all that were moved. -/
theorem append_move
    {found : Found α}
    (inside : found.index < session.entities.length)
    (transform : Transform α)
    (placed : PlacedEntity α) :
    (session.move found transform).append placed =
      (session.append placed).move found transform := by
  unfold move append
  dsimp only
  rw [List.set_append_left _ _ inside, List.length_set]

end Motions

/-! ## One statement -/

section Steps

variable [Scalar α] {registry : Registry α} {policy : RedeclarationPolicy}
  {session next : Session α} {statement : Located (Statement α)}

/-- A statement that moves an entity only moves it. -/
theorem Succeeds.exists_move
    (succeeds : Succeeds registry policy session statement next)
    {index : Nat}
    (moves : session.movedIndex? statement = some index) :
    ∃ placed transform,
      session.entities[index]? = some placed ∧
        next = session.move ⟨index, placed⟩ transform := by
  have ofLookup : ∀ {name : Located Name} {found : Found α} (transform : Transform α),
      session.lookup name = .ok found →
        session.names.get? name.value = some index →
        ∃ placed other,
          session.entities[index]? = some placed ∧
            session.move found transform = session.move ⟨index, placed⟩ other := by
    rintro name ⟨foundIndex, placed⟩ transform isFound isIndex
    obtain ⟨stored, isPlaced⟩ := lookup_eq_ok_iff.1 isFound
    obtain rfl := Option.some.inj (stored.symm.trans isIndex)
    exact ⟨placed, transform, isPlaced, rfl⟩
  cases succeeds with
  | abbreviation _ =>
      cases moves
  | declaration _ _ =>
      cases moves
  | absolute isFound =>
      exact ofLookup _ isFound moves
  | relative isFound _ =>
      exact ofLookup _ isFound moves
  | connection isMoved _ _ _ =>
      exact ofLookup _ isMoved moves

/-- A statement that leaves an entity alone does the same wherever that entity is. -/
theorem Succeeds.move_of_leavesAlone
    (succeeds : Succeeds registry policy session statement next)
    (other : Found α)
    (inside : other.index < session.entities.length)
    (leavesAlone : session.LeavesAlone statement other.index)
    (transform : Transform α) :
    Succeeds registry policy (session.move other transform) statement
      (next.move other transform) := by
  obtain ⟨unmoved, unread⟩ := leavesAlone
  have apart : ∀ {name : Located Name} {found : Found α},
      session.names.get? name.value ≠ some other.index →
        session.lookup name = .ok found →
        found.index ≠ other.index := by
    intro name found elsewhere isFound same
    exact elsewhere (same ▸ (lookup_eq_ok_iff.1 isFound).1)
  cases succeeds with
  | abbreviation resolved =>
      exact .abbreviation resolved
  | declaration fresh built =>
      rw [← append_move inside]
      exact .declaration fresh built
  | absolute isFound =>
      rw [move_comm _ other (apart unmoved isFound)]
      refine .absolute ?_
      rw [lookup_move_of_ne other unmoved]
      exact isFound
  | relative isFound isReference =>
      have originElsewhere := fun stored => unread (Or.inr ⟨_, rfl, stored⟩)
      rw [move_comm _ other (apart unmoved isFound)]
      refine .relative ?_ ?_
      · rw [lookup_move_of_ne other unmoved]
        exact isFound
      · rw [lookup_move_of_ne other originElsewhere]
        exact isReference
  | connection isMoved isBase isMovedSocket isBaseSocket =>
      rw [move_comm _ other (apart unmoved isMoved)]
      refine .connection ?_ ?_ isMovedSocket isBaseSocket
      · rw [lookup_move_of_ne other unmoved]
        exact isMoved
      · rw [lookup_move_of_ne other unread]
        exact isBase

/-- Independent statements that succeed one after the other do so in the other order too. -/
theorem Succeeds.swap
    {first second : Located (Statement α)}
    {between : Session α}
    (independent : session.Independent first second)
    (succeeds : Succeeds registry policy session first between)
    (succeedsThen : Succeeds registry policy between second next) :
    ∃ other,
      Succeeds registry policy session second other ∧
        Succeeds registry policy other first next := by
  obtain ⟨⟨index, movesFirst, secondLeaves⟩, otherIndex, movesSecond, firstLeaves⟩ := independent
  have different : index ≠ otherIndex := by
    rintro rfl
    exact secondLeaves.unmoved movesSecond
  obtain ⟨placed, transform, isPlaced, rfl⟩ := succeeds.exists_move movesFirst
  obtain ⟨other, otherTransform, isOther, rfl⟩ := succeedsThen.exists_move movesSecond
  have isOtherBefore : session.entities[otherIndex]? = some other := by
    rwa [getElem?_move_of_ne different] at isOther
  have movedBack := move_back ⟨index, placed⟩ isPlaced transform
  -- The second statement does the same where the first one's entity has not been moved yet.
  have secondFirst : Succeeds registry policy session second
      (session.move ⟨otherIndex, other⟩ otherTransform) := by
    have inside : index < (session.move ⟨index, placed⟩ transform).entities.length := by
      simpa [move] using (List.getElem?_eq_some_iff.1 isPlaced).1
    have onlySecond :=
      succeedsThen.move_of_leavesAlone ⟨index, placed.withTransform transform⟩ inside
        ⟨secondLeaves.unmoved, secondLeaves.unread⟩ placed.transform
    rwa [move_comm ⟨otherIndex, other⟩ ⟨index, _⟩ (Ne.symm different),
      movedBack] at onlySecond
  refine ⟨_, secondFirst, ?_⟩
  have insideOther := (List.getElem?_eq_some_iff.1 isOtherBefore).1
  exact
    succeeds.move_of_leavesAlone ⟨otherIndex, other⟩ insideOther firstLeaves
      otherTransform

end Steps

end Session

namespace Level

/--
Two placements or connections that leave each other's entities alone may change places: what
comes before them and after them stays, and so does the level, exactly.
-/
theorem ofStatements_swap
    [Scalar α]
    {registry : Registry α}
    {policy : RedeclarationPolicy}
    {passed later : List (Located (Statement α))}
    {first second : Located (Statement α)}
    {session : Session α}
    {level : Level α}
    (ran : (Session.empty.run registry policy passed).outcome = .ok session)
    (independent : session.Independent first second)
    (succeeded :
      (ofStatements registry policy (passed ++ first :: second :: later)).outcome =
        .ok level) :
    (ofStatements registry policy (passed ++ second :: first :: later)).outcome = .ok level := by
  obtain ⟨final, ranAll, isLevel⟩ := ofStatements_eq_ok_iff.1 succeeded
  obtain ⟨start, ranPassed, ranRest⟩ := Session.run_append_eq_ok_iff.1 ranAll
  obtain rfl := Except.ok.inj (ran.symm.trans ranPassed)
  obtain ⟨between, succeeds, ranSecond⟩ := Session.run_cons_eq_ok_iff.1 ranRest
  obtain ⟨next, succeedsThen, ranLater⟩ := Session.run_cons_eq_ok_iff.1 ranSecond
  obtain ⟨other, secondFirst, firstThen⟩ := succeeds.swap independent succeedsThen
  have ranSwapped :
      (session.run registry policy (second :: first :: later)).outcome = .ok final :=
    Session.run_cons_eq_ok_iff.2
      ⟨other, secondFirst, Session.run_cons_eq_ok_iff.2 ⟨next, firstThen, ranLater⟩⟩
  exact
    ofStatements_eq_ok_iff.2
      ⟨final, Session.run_append_eq_ok_iff.2 ⟨session, ran, ranSwapped⟩, isLevel⟩

end Level

/-- The declaration of a lamp. -/
def lamp
    (name : String) :
    Located (Statement Float) :=
  .unplaced (.declaration (.unplaced ⟨name⟩) (.unplaced ⟨"Lamp"⟩) [])

/-- A lamp is plugged onto another one. -/
def lampOnto
    (moved base : String) :
    Located (Statement Float) :=
  .unplaced
    (.connection (.unplaced ⟨moved⟩) (.unplaced ⟨"socket"⟩) (.unplaced ⟨base⟩)
      (.unplaced ⟨"socket"⟩))

/-- A lamp is placed beside another one. -/
def lampBeside
    (name origin : String) :
    Located (Statement Float) :=
  .unplaced
    (.placement (.unplaced ⟨name⟩) (.unplaced ⟨1, 2, 3⟩) (some (.unplaced ⟨origin⟩)))

/-- The declarations of three lamps. -/
def threeLamps : List (Located (Statement Float)) :=
  [lamp "a", lamp "b", lamp "c"]

/-- One lamp is plugged onto a second one and another is placed beside it, in either order. -/
theorem Level.ofStatements_swap_lamps :
    ∃ session level,
      (Session.empty.run lampRegistry .reject threeLamps).outcome = .ok session ∧
        session.Independent (lampOnto "a" "c") (lampBeside "b" "c") ∧
        (ofStatements lampRegistry .reject
            (threeLamps ++ lampOnto "a" "c" :: lampBeside "b" "c" :: [lampOnto "c" "a"])).outcome =
          .ok level ∧
        (ofStatements lampRegistry .reject
            (threeLamps ++ lampBeside "b" "c" :: lampOnto "a" "c" :: [lampOnto "c" "a"])).outcome =
          .ok level := by
  obtain ⟨session, ran⟩ : ∃ session,
      (Session.empty.run lampRegistry .reject threeLamps).outcome = .ok session :=
    ⟨_, rfl⟩
  obtain ⟨level, succeeded⟩ : ∃ level,
      (ofStatements lampRegistry .reject
          (threeLamps ++ lampOnto "a" "c" :: lampBeside "b" "c" :: [lampOnto "c" "a"])).outcome =
        .ok level :=
    ⟨_, rfl⟩
  have independent : session.Independent (lampOnto "a" "c") (lampBeside "b" "c") := by
    cases ran
    refine ⟨⟨0, rfl, by decide, ?_⟩, ⟨1, rfl, by decide, ?_⟩⟩
    · rintro (isPlaced | ⟨origin, isOrigin, stored⟩)
      · cases isPlaced
      · cases isOrigin
        cases stored
    · intro reads
      cases reads
  exact ⟨session, level, ran, independent, succeeded, ofStatements_swap ran independent succeeded⟩

end LevelScript
