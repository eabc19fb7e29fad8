import Mathlib.Data.Set.Function
import LevelScript.Proofs.Session.Effect
import LevelScript.Proofs.Session.NameTable

namespace LevelScript.Session

/-!
# Shadowed entities

An entity whose name has been declared again cannot be named any more. It stays in its place
and as it is, and whatever it is like, no statement that runs later can tell.
-/

variable {α : Type}

/-- The indices of the entities whose names stand for other entities. -/
def shadowed
    (session : Session α) :
    Set Nat :=
  {index | ∃ placed,
    session.entities[index]? = some placed ∧ session.names.get? placed.name ≠ some index}

/-- No name stands for the entities at some indices. -/
structure Hides
    (session : Session α)
    (hidden : Set Nat) :
    Prop where
  inside : ∀ index ∈ hidden, index < session.entities.length
  unnamed : ∀ name, ∀ index ∈ hidden, session.names.get? name ≠ some index

/-- Two sessions differ in the transforms and connectors of the entities at some indices only. -/
structure AgreeOutside
    (hidden : Set Nat)
    (session counterpart : Session α) :
    Prop where
  aliases : session.aliases = counterpart.aliases
  names : session.names = counterpart.names
  declared :
    session.entities.map (fun placed => (placed.name, placed.className)) =
      counterpart.entities.map fun placed => (placed.name, placed.className)
  visible : Set.EqOn (session.entities[·]?) (counterpart.entities[·]?) hiddenᶜ

/-! ## Hidden entities -/

section Hidden

variable {session next : Session α} {hidden : Set Nat}

/-- What is shadowed after a run is hidden. -/
theorem Tracks.hides_shadowed
    {statements : List (Located (Statement α))}
    (tracks : Tracks statements session) :
    session.Hides session.shadowed where
  inside := by
    rintro index ⟨placed, isPlaced, _⟩
    exact (List.getElem?_eq_some_iff.1 isPlaced).1
  unnamed := by
    rintro name index ⟨placed, isPlaced, otherIndex⟩ stored
    have bears : session.entityNames[index]? = some name := (tracks.last name index stored).1
    have isName : placed.name = name := by
      simpa [entityNames, isPlaced] using bears
    exact otherIndex (isName ▸ stored)

theorem Hides.append
    (hides : session.Hides hidden)
    (placed : PlacedEntity α) :
    (session.append placed).Hides hidden where
  inside := by
    intro index isHidden
    have := hides.inside index isHidden
    simp [Session.append]
    omega
  unnamed := by
    intro name index isHidden stored
    by_cases same : name = placed.name
    · have isLast : session.entities.length = index := by
        simpa [Session.append, same] using stored
      have := hides.inside index isHidden
      omega
    · rw [Session.append, Table.get?_insert_of_ne _ _ same] at stored
      exact hides.unnamed name index isHidden stored

theorem Hides.move
    (hides : session.Hides hidden)
    (found : Found α)
    (transform : Transform α) :
    (session.move found transform).Hides hidden where
  inside := by
    simpa [Session.move] using hides.inside
  unnamed := hides.unnamed

variable [Scalar α] {registry : Registry α} {policy : RedeclarationPolicy}

/-- A statement that succeeds gives no name to a hidden entity. -/
theorem Hides.step
    {statement : Located (Statement α)}
    (hides : session.Hides hidden)
    (succeeds : Succeeds registry policy session statement next) :
    next.Hides hidden := by
  cases succeeds with
  | abbreviation _ =>
      exact ⟨hides.inside, hides.unnamed⟩
  | declaration _ _ =>
      exact hides.append _
  | absolute _ =>
      exact hides.move _ _
  | relative _ _ =>
      exact hides.move _ _
  | connection _ _ _ _ =>
      exact hides.move _ _

/-- No run moves a hidden entity. -/
theorem Hides.neverMoves
    (hides : session.Hides hidden)
    {index : Nat}
    (isHidden : index ∈ hidden)
    (statements : List (Located (Statement α))) :
    NeverMoves registry policy index session statements := by
  intro passed statement rest between _ ran
  have stillHidden : between.Hides hidden := invariant_of_run Hides.step hides ran
  obtain ⟨value, span⟩ := statement
  cases value with
  | placement name position relativeTo =>
      exact stillHidden.unnamed name.value index isHidden
  | connection moved movedConnector base baseConnector =>
      exact stillHidden.unnamed moved.value index isHidden
  | _ =>
      simp [movedIndex?]

end Hidden

/-! ## Sessions that agree outside the hidden entities -/

namespace AgreeOutside

variable {session counterpart : Session α} {hidden : Set Nat}

theorem sameLength
    (agree : AgreeOutside hidden session counterpart) :
    session.entities.length = counterpart.entities.length := by
  simpa using congrArg List.length agree.declared

/-- A name stands for one and the same entity, because it stands for no hidden one. -/
theorem lookup
    (agree : AgreeOutside hidden session counterpart)
    (hides : session.Hides hidden)
    (name : Located Name) :
    counterpart.lookup name = session.lookup name := by
  unfold Session.lookup
  rw [← agree.names]
  cases stored : session.names.get? name.value with
  | none =>
      rfl
  | some index =>
      have isVisible : index ∈ hiddenᶜ := fun isHidden =>
        hides.unnamed name.value index isHidden stored
      have sameEntity : session.entities[index]? = counterpart.entities[index]? :=
        agree.visible isVisible
      dsimp only
      rw [sameEntity]

theorem move
    (agree : AgreeOutside hidden session counterpart)
    (found : Found α)
    (transform : Transform α) :
    AgreeOutside hidden (session.move found transform)
      (counterpart.move found transform) where
  aliases := agree.aliases
  names := agree.names
  declared := by
    simp only [Session.move, List.map_set, agree.declared]
  visible := by
    intro index isVisible
    have sameEntity : session.entities[index]? = counterpart.entities[index]? :=
      agree.visible isVisible
    simp only [Session.move, List.getElem?_set, agree.sameLength, sameEntity]

theorem append
    (agree : AgreeOutside hidden session counterpart)
    (placed : PlacedEntity α) :
    AgreeOutside hidden (session.append placed) (counterpart.append placed) where
  aliases := agree.aliases
  names := by
    simp only [Session.append, agree.names, agree.sameLength]
  declared := by
    simp only [Session.append, List.map_append, agree.declared]
  visible := by
    intro index isVisible
    have sameEntity : session.entities[index]? = counterpart.entities[index]? :=
      agree.visible isVisible
    simp only [Session.append, List.getElem?_append, agree.sameLength, sameEntity]

/-- Moving a hidden entity changes nothing else. -/
theorem of_move
    {found : Found α}
    (isPlaced : session.entities[found.index]? = some found.placed)
    (isHidden : found.index ∈ hidden)
    (transform : Transform α) :
    AgreeOutside hidden session (session.move found transform) where
  aliases := rfl
  names := rfl
  declared := by
    symm
    unfold Session.move
    exact map_set_eq_map isPlaced rfl
  visible := by
    rintro other isVisible
    have different : found.index ≠ other := by
      rintro rfl
      exact isVisible isHidden
    exact (List.getElem?_set_ne different).symm

variable (registry : Registry α) (policy : RedeclarationPolicy)

theorem abbreviate
    (agree : AgreeOutside hidden session counterpart)
    (short className : Located Name) :
    Outcome.Related (AgreeOutside hidden)
      (session.abbreviate registry short className).outcome
      (counterpart.abbreviate registry short className).outcome := by
  have sameAliases : AgreeOutside hidden
      { session with aliases := session.aliases.insert short.value className.value }
      { counterpart with
        aliases := counterpart.aliases.insert short.value className.value } :=
    ⟨by rw [agree.aliases], agree.names, agree.declared, agree.visible⟩
  rw [outcome_abbreviate, outcome_abbreviate]
  exact .after _ fun _ => .ok sameAliases

variable [Scalar α]

theorem place
    (agree : AgreeOutside hidden session counterpart)
    (hides : session.Hides hidden)
    (name : Located Name)
    (position : Vec3 α)
    (relativeTo : Option (Located Name)) :
    Outcome.Related (AgreeOutside hidden) (session.place name position relativeTo).outcome
      (counterpart.place name position relativeTo).outcome := by
  unfold Session.place
  cases relativeTo with
  | none =>
      simp only [agree.lookup hides, Logged.outcome_bind, Logged.outcome_monadLift]
      refine .after _ fun found => ?_
      exact .ok (agree.move _ _)
  | some origin =>
      simp only [agree.lookup hides, Logged.outcome_bind, Logged.outcome_monadLift]
      refine .after _ fun found => ?_
      refine .after _ fun reference => ?_
      exact .ok (agree.move _ _)

theorem connect
    (agree : AgreeOutside hidden session counterpart)
    (hides : session.Hides hidden)
    (moved movedConnector base baseConnector : Located Name) :
    Outcome.Related (AgreeOutside hidden)
      (session.connect moved movedConnector base baseConnector).outcome
      (counterpart.connect moved movedConnector base baseConnector).outcome := by
  unfold Session.connect
  simp only [agree.lookup hides, Logged.outcome_bind, Logged.outcome_monadLift]
  refine .after _ fun movedEntity => ?_
  refine .after _ fun baseEntity => ?_
  refine .after _ fun movedSocket => ?_
  refine .after _ fun baseSocket => ?_
  exact .ok (agree.move _ _)

/-- A statement ends alike in two sessions that differ in hidden entities only. -/
theorem step
    (agree : AgreeOutside hidden session counterpart)
    (hides : session.Hides hidden)
    (statement : Located (Statement α)) :
    Outcome.Related (AgreeOutside hidden) (session.step registry policy statement).outcome
      (counterpart.step registry policy statement).outcome := by
  obtain ⟨value, span⟩ := statement
  unfold Session.step
  simp only [Logged.outcome_bind, Logged.outcome_emit]
  cases value with
  | abbreviation short className =>
      exact agree.abbreviate registry short className
  | declaration name className arguments =>
      exact
        related_declare agree.aliases agree.names agree.append registry policy span name className
          arguments
  | placement name position relativeTo =>
      exact agree.place hides name position.value relativeTo
  | connection moved movedConnector base baseConnector =>
      exact agree.connect hides moved movedConnector base baseConnector

/-- Two runs end alike, because no statement of theirs gives a name to a hidden entity. -/
theorem run
    (statements : List (Located (Statement α)))
    (agree : AgreeOutside hidden session counterpart)
    (hides : session.Hides hidden) :
    Outcome.Related (AgreeOutside hidden) (session.run registry policy statements).outcome
      (counterpart.run registry policy statements).outcome := by
  induction statements generalizing session counterpart with
  | nil =>
      exact .ok agree
  | cons statement rest inductionHypothesis =>
      have related := agree.step registry policy hides statement
      simp only [Session.run, Logged.outcome_bind]
      generalize stepped : (session.step registry policy statement).outcome = outcome
        at related ⊢
      generalize (counterpart.step registry policy statement).outcome = other at related ⊢
      cases related with
      | ok agreeNext =>
          exact inductionHypothesis agreeNext (hides.step (step_eq_ok_iff.1 stepped))
      | error error =>
          exact .error error

end AgreeOutside

/--
An entity whose name is declared again is shadowed, and to the end of every run it stays at
its index and as it was before that declaration. What the shadowed entities of a session are
like decides nothing later: without them two sessions run alike, with the same errors and
the same other entities.
-/
theorem shadowed_unreachable
    [Scalar α]
    {registry : Registry α}
    {policy : RedeclarationPolicy}
    {passed : List (Located (Statement α))}
    {session : Session α}
    (ran : (empty.run registry policy passed).outcome = .ok session) :
    (∀ name className arguments span next index placed,
      (session.step registry policy
          ⟨.declaration name className arguments, span⟩).outcome = .ok next →
        session.entities[index]? = some placed →
        placed.name = name.value →
        index ∈ next.shadowed ∧
          ∀ later final,
            (next.run registry policy later).outcome = .ok final →
              index ∈ final.shadowed ∧ final.entities[index]? = some placed) ∧
      ∀ counterpart later,
        AgreeOutside session.shadowed session counterpart →
          Outcome.Related (AgreeOutside session.shadowed)
            (session.run registry policy later).outcome
            (counterpart.run registry policy later).outcome := by
  have tracks : Tracks passed session := tracks_empty.run ran
  constructor
  · intro name className arguments span next index placed stepped isPlaced isName
    have succeeds := step_eq_ok_iff.1 stepped
    have tracksNext := tracks.step succeeds
    have stillPlaced : next.entities[index]? = some placed :=
      (effect_of_succeeds succeeds).getElem?_eq_some isPlaced nofun
    have isShadowed : index ∈ next.shadowed := by
      refine ⟨placed, stillPlaced, ?_⟩
      cases succeeds with
      | declaration _ _ =>
          have isEarlier := (List.getElem?_eq_some_iff.1 isPlaced).1
          simp [Session.append, isName, isEarlier.ne']
    have hides := tracksNext.hides_shadowed
    refine ⟨isShadowed, fun later final ranLater => ?_⟩
    have isKept : final.entities[index]? = some placed :=
      getElem?_of_run ranLater stillPlaced (hides.neverMoves isShadowed later)
    have stillHides : final.Hides next.shadowed := invariant_of_run Hides.step hides ranLater
    exact ⟨⟨placed, isKept, stillHides.unnamed _ index isShadowed⟩, isKept⟩
  · intro counterpart later agree
    exact agree.run registry policy later tracks.hides_shadowed

/-- A box where its constructor has built it. -/
def box : PlacedEntity Float :=
  ⟨⟨"e"⟩, ⟨"Box"⟩, ⟨Transform.identity, none⟩⟩

/-- A registry of such boxes. -/
def boxRegistry : Registry Float :=
  Registry.empty.register ⟨⟨"Box"⟩, [⟨[], fun _ => .ok box.entity⟩]⟩

/-- The declaration of a box. -/
def declaredBox : Located (Statement Float) :=
  .unplaced (.declaration (.unplaced ⟨"e"⟩) (.unplaced ⟨"Box"⟩) [])

/-- A placement of the last box. -/
def placedBox : Located (Statement Float) :=
  .unplaced (.placement (.unplaced ⟨"e"⟩) (.unplaced ⟨1, 2, 3⟩) none)

/-- A second box of the same name is placed, wherever the first one is. -/
theorem shadowed_unreachable_boxes :
    ∃ two final : Session Float,
      (empty.run boxRegistry .allow [declaredBox]).outcome = .ok (empty.append box) ∧
        ((empty.append box).step boxRegistry .allow declaredBox).outcome = .ok two ∧
        (two.run boxRegistry .allow [placedBox]).outcome = .ok final ∧
        0 ∈ final.shadowed ∧
        final.entities[0]? = some box ∧
        ∀ transform,
          Outcome.Related (AgreeOutside two.shadowed)
            (two.run boxRegistry .allow [placedBox]).outcome
            ((two.move ⟨0, box⟩ transform).run boxRegistry .allow [placedBox]).outcome := by
  have first : (empty.run boxRegistry .allow [declaredBox]).outcome =
      .ok (empty.append box) :=
    rfl
  have both : (empty.run boxRegistry .allow [declaredBox, declaredBox]).outcome =
      .ok ((empty.append box).append box) :=
    rfl
  obtain ⟨isShadowed, staysShadowed⟩ :=
    (shadowed_unreachable first).1 (.unplaced ⟨"e"⟩) (.unplaced ⟨"Box"⟩) [] .origin _ 0 box rfl
      rfl rfl
  obtain ⟨stillShadowed, isKept⟩ := staysShadowed [placedBox] _ rfl
  refine ⟨_, _, first, rfl, rfl, stillShadowed, isKept, fun transform => ?_⟩
  exact (shadowed_unreachable both).2 _ _ (.of_move rfl isShadowed transform)

end LevelScript.Session
