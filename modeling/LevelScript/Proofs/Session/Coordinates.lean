import LevelScript.Proofs.Session.Effect
import LevelScript.Schema
import Mathlib.Data.List.Forall2

namespace LevelScript

/-!
# Coordinates

No statement asks where an entity is: names, classes and connectors decide whether it succeeds,
and transforms flow into nothing but transforms. So two programs that differ in coordinates
only are run in lockstep, whatever the coordinates are. Both stop at the same statement with
the same error, or both build the same entities and merely leave them in different places.
-/

variable {α : Type}

/-- Statements that are the same but for the position that an entity is moved to. -/
inductive Statement.SameButPosition :
    Statement α → Statement α → Prop where
  | same
      (statement : Statement α) :
      SameButPosition statement statement
  | placement
      (name : Located Name)
      (position other : Located (Vec3 α))
      (relativeTo : Option (Located Name)) :
      SameButPosition (.placement name position relativeTo) (.placement name other relativeTo)

/-- Statements at the same place that are the same but for positions. -/
structure Located.SameButPosition
    (first second : Located (Statement α)) :
    Prop where
  span : first.span = second.span
  value : first.value.SameButPosition second.value

/-- Levels with the same entities in the same order and under the same names, wherever they
are. -/
structure Level.SameDeclared
    (first second : Level α) :
    Prop where
  entities :
    first.entities.map PlacedEntity.declared = second.entities.map PlacedEntity.declared
  bindings : first.bindings = second.bindings

namespace Session

/-- Sessions that differ in the transforms of their entities only. -/
structure SameDeclared
    (first second : Session α) :
    Prop where
  aliases : first.aliases = second.aliases
  names : first.names = second.names
  entities :
    first.entities.map PlacedEntity.declared = second.entities.map PlacedEntity.declared

theorem sameDeclared_empty :
    SameDeclared (empty : Session α) empty where
  aliases := rfl
  names := rfl
  entities := rfl

/-- Which connector a name stands for depends on what the entity was declared with. -/
theorem connector_congr
    {placed other : PlacedEntity α}
    (same : placed.declared = other.declared)
    (entity name : Located Name) :
    connector placed entity name = connector other entity name := by
  have sameConnectors : placed.connectors = other.connectors := congrArg (·.2.2) same
  unfold connector
  rw [sameConnectors]

namespace SameDeclared

variable {session counterpart : Session α}

theorem toLevel
    (same : session.SameDeclared counterpart) :
    session.toLevel.SameDeclared counterpart.toLevel where
  entities := same.entities
  bindings := same.names

/-! ## One operation at a time -/

/-- Where an entity is moved to makes no difference. -/
theorem move
    (same : session.SameDeclared counterpart)
    {name : Located Name}
    {found other : Found α}
    (isFound : session.lookup name = .ok found)
    (isOther : counterpart.lookup name = .ok other)
    (transform otherTransform : Transform α) :
    (session.move found transform).SameDeclared (counterpart.move other otherTransform) where
  aliases := same.aliases
  names := same.names
  entities := by
    rw [map_entities_move isFound _ _ fun _ _ => rfl,
      map_entities_move isOther _ _ fun _ _ => rfl]
    exact same.entities

theorem append
    (same : session.SameDeclared counterpart)
    (placed : PlacedEntity α) :
    (session.append placed).SameDeclared (counterpart.append placed) where
  aliases := same.aliases
  names := by
    have sameLength := congrArg List.length same.entities
    simp only [List.length_map] at sameLength
    simp only [Session.append, same.names, sameLength]
  entities := by
    simp only [Session.append, List.map_append, same.entities]

variable (registry : Registry α) (policy : RedeclarationPolicy)

theorem abbreviate
    (same : session.SameDeclared counterpart)
    (short className : Located Name) :
    Outcome.Related SameDeclared (session.abbreviate registry short className).outcome
      (counterpart.abbreviate registry short className).outcome := by
  have sameAliases : SameDeclared
      { session with aliases := session.aliases.insert short.value className.value }
      { counterpart with
        aliases := counterpart.aliases.insert short.value className.value } :=
    ⟨by rw [same.aliases], same.names, same.entities⟩
  rw [outcome_abbreviate, outcome_abbreviate]
  exact .after _ fun _ => .ok sameAliases

variable [Scalar α]

/-- A placement looks for names and not at positions. -/
theorem place
    (same : session.SameDeclared counterpart)
    (name : Located Name)
    (position other : Vec3 α)
    (relativeTo : Option (Located Name)) :
    Outcome.Related SameDeclared (session.place name position relativeTo).outcome
      (counterpart.place name other relativeTo).outcome := by
  have related := related_lookup same.names same.entities
  unfold Session.place
  cases relativeTo with
  | none =>
      simp only [Logged.outcome_bind, Logged.outcome_monadLift]
      refine (related name).bind fun ⟨isFound, isOther, _⟩ => ?_
      exact .ok (same.move isFound isOther _ _)
  | some origin =>
      simp only [Logged.outcome_bind, Logged.outcome_monadLift]
      refine (related name).bind fun ⟨isFound, isOther, _⟩ => ?_
      exact (related origin).bind fun _ => .ok (same.move isFound isOther _ _)

/-- A connection looks for names and connectors and not at transforms. -/
theorem connect
    (same : session.SameDeclared counterpart)
    (moved movedConnector base baseConnector : Located Name) :
    Outcome.Related SameDeclared
      (session.connect moved movedConnector base baseConnector).outcome
      (counterpart.connect moved movedConnector base baseConnector).outcome := by
  have related := related_lookup same.names same.entities
  unfold Session.connect
  simp only [Logged.outcome_bind, Logged.outcome_monadLift]
  refine (related moved).bind fun ⟨isMoved, isOther, movedAlike⟩ => ?_
  refine (related base).bind fun ⟨_, _, baseAlike⟩ => ?_
  rw [connector_congr movedAlike, connector_congr baseAlike]
  refine .after _ fun movedSocket => ?_
  refine .after _ fun baseSocket => ?_
  exact .ok (same.move isMoved isOther _ _)

/-- A statement ends alike with other coordinates and in a session with other transforms. -/
theorem step
    (same : session.SameDeclared counterpart)
    {statement other : Located (Statement α)}
    (sameStatement : statement.SameButPosition other) :
    Outcome.Related SameDeclared (session.step registry policy statement).outcome
      (counterpart.step registry policy other).outcome := by
  obtain ⟨value, span⟩ := statement
  obtain ⟨otherValue, otherSpan⟩ := other
  obtain ⟨rfl, sameValue⟩ := sameStatement
  unfold Session.step
  simp only [Logged.outcome_bind, Logged.outcome_emit]
  cases sameValue with
  | placement name position other relativeTo =>
      exact same.place name position.value other.value relativeTo
  | same =>
      cases value with
      | abbreviation short className =>
          exact same.abbreviate registry short className
      | declaration name className arguments =>
          exact
            related_declare same.aliases same.names same.append registry policy span name
              className arguments
      | placement name position relativeTo =>
          exact same.place name position.value position.value relativeTo
      | connection moved movedConnector base baseConnector =>
          exact same.connect moved movedConnector base baseConnector

end SameDeclared

/-! ## Runs -/

/-- A run executes the statements before an index, and the one at the index fails. -/
def StopsAt
    [Scalar α]
    (registry : Registry α)
    (policy : RedeclarationPolicy)
    (session : Session α)
    (statements : List (Located (Statement α)))
    (index : Nat)
    (error : LoadError) :
    Prop :=
  ∃ earlier statement later between,
    statements = earlier ++ statement :: later ∧
      earlier.length = index ∧
      (session.run registry policy earlier).outcome = .ok between ∧
      (between.step registry policy statement).outcome = .error error

section Runs

variable [Scalar α] {registry : Registry α} {policy : RedeclarationPolicy}
  {session counterpart next : Session α}

/-- A run that stops after its first statement stops at the next index. -/
theorem StopsAt.cons
    {statement : Located (Statement α)}
    {rest : List (Located (Statement α))}
    {index : Nat}
    {error : LoadError}
    (succeeded : (session.step registry policy statement).outcome = .ok next)
    (stops : StopsAt registry policy next rest index error) :
    StopsAt registry policy session (statement :: rest) (index + 1) error := by
  obtain ⟨earlier, failing, later, between, rfl, rfl, ran, fails⟩ := stops
  refine ⟨statement :: earlier, failing, later, between, rfl, rfl, ?_, fails⟩
  exact run_cons_eq_ok_iff.2 ⟨next, step_eq_ok_iff.1 succeeded, ran⟩

/-- Two runs with different coordinates stop at the same index or end alike. -/
theorem SameDeclared.run
    {first second : List (Located (Statement α))}
    (sameStatements : List.Forall₂ Located.SameButPosition first second)
    (same : session.SameDeclared counterpart) :
    (∃ index error,
      (session.run registry policy first).outcome = .error error ∧
        (counterpart.run registry policy second).outcome = .error error ∧
        StopsAt registry policy session first index error ∧
        StopsAt registry policy counterpart second index error) ∨
      ∃ final other,
        (session.run registry policy first).outcome = .ok final ∧
          (counterpart.run registry policy second).outcome = .ok other ∧
          final.SameDeclared other := by
  induction sameStatements generalizing session counterpart with
  | nil =>
      exact Or.inr ⟨session, counterpart, rfl, rfl, same⟩
  | @cons statement other rest others sameStatement sameRest inductionHypothesis =>
      have related := same.step registry policy sameStatement
      simp only [Session.run, Logged.outcome_bind]
      generalize stepped : (session.step registry policy statement).outcome = outcome
        at related ⊢
      generalize otherStepped : (counterpart.step registry policy other).outcome = otherOutcome
        at related ⊢
      cases related with
      | error error =>
          refine Or.inl ⟨0, error, rfl, rfl, ?_, ?_⟩
          · exact ⟨[], statement, rest, session, rfl, rfl, rfl, stepped⟩
          · exact ⟨[], other, others, counterpart, rfl, rfl, rfl, otherStepped⟩
      | ok sameNext =>
          refine (inductionHypothesis sameNext).imp_left ?_
          rintro ⟨index, error, failed, otherFailed, stops, otherStops⟩
          exact
            ⟨index + 1, error, failed, otherFailed, stops.cons stepped,
              otherStops.cons otherStepped⟩

end Runs

end Session

/--
Two programs that differ in the positions of placements only fail at the same statement with
the same error, or both succeed. Then their levels have the same entities in the same order,
with the same names, classes and connectors, and the same bindings.
-/
theorem Level.ofStatements_sameButPositions
    [Scalar α]
    (registry : Registry α)
    (policy : RedeclarationPolicy)
    {first second : List (Located (Statement α))}
    (sameStatements : List.Forall₂ Located.SameButPosition first second) :
    (∃ index error,
      (ofStatements registry policy first).outcome = .error error ∧
        (ofStatements registry policy second).outcome = .error error ∧
        Session.StopsAt registry policy .empty first index error ∧
        Session.StopsAt registry policy .empty second index error) ∨
      ∃ level other,
        (ofStatements registry policy first).outcome = .ok level ∧
          (ofStatements registry policy second).outcome = .ok other ∧
          level.SameDeclared other := by
  simp only [ofStatements_eq_error_iff, ofStatements_eq_ok_iff]
  rcases Session.sameDeclared_empty.run sameStatements with
    stops | ⟨final, other, ran, otherRan, same⟩
  · exact Or.inl stops
  · exact
      Or.inr
        ⟨final.toLevel, other.toLevel, ⟨final, ran, rfl⟩, ⟨other, otherRan, rfl⟩, same.toLevel⟩

/-- Lamps with a socket. -/
def lampRegistry : Registry Float :=
  Registry.ofSchema
    [{
        name := ⟨"Lamp"⟩
        constructors := [[]]
        connectors := some [⟨⟨"socket"⟩, ⟨0, 0, 1⟩⟩]
      }]

/-- No number, an infinite one and the negative zero. -/
def nowhere : Vec3 Float :=
  ⟨Float.ofBits 0x7FF8000000000000, Float.ofBits 0x7FF0000000000000,
    Float.ofBits 0x8000000000000000⟩

/-- Two lamps, of which the first one is moved; then the second one's plug is asked for. -/
def twoLamps
    (position : Vec3 Float) :
    List (Located (Statement Float)) :=
  [.unplaced (.declaration (.unplaced ⟨"a"⟩) (.unplaced ⟨"Lamp"⟩) []),
    .unplaced (.declaration (.unplaced ⟨"b"⟩) (.unplaced ⟨"Lamp"⟩) []),
    .unplaced (.placement (.unplaced ⟨"a"⟩) (.unplaced position) none),
    .unplaced
      (.connection (.unplaced ⟨"a"⟩) (.unplaced ⟨"socket"⟩) (.unplaced ⟨"b"⟩)
        (.unplaced ⟨"plug"⟩))]

/-- A lamp has no plug, even if the other one is nowhere. -/
theorem Level.ofStatements_sameButPositions_lamps :
    List.Forall₂ Located.SameButPosition (twoLamps ⟨1, 2, 3⟩) (twoLamps nowhere) ∧
      ∃ index,
        Session.StopsAt lampRegistry .reject .empty (twoLamps ⟨1, 2, 3⟩) index
            ⟨.noConnector ⟨"b"⟩ ⟨"plug"⟩, .origin⟩ ∧
          Session.StopsAt lampRegistry .reject .empty (twoLamps nowhere) index
            ⟨.noConnector ⟨"b"⟩ ⟨"plug"⟩, .origin⟩ := by
  have sameStatements :
      List.Forall₂ Located.SameButPosition (twoLamps ⟨1, 2, 3⟩) (twoLamps nowhere) :=
    .cons ⟨rfl, .same _⟩ (.cons ⟨rfl, .same _⟩ (.cons ⟨rfl, .placement _ _ _ _⟩
      (.cons ⟨rfl, .same _⟩ .nil)))
  refine ⟨sameStatements, ?_⟩
  rcases ofStatements_sameButPositions lampRegistry .reject sameStatements with
    ⟨index, error, failed, _, stops, otherStops⟩ | ⟨level, other, succeeded, _⟩
  · cases failed
    exact ⟨index, stops, otherStops⟩
  · cases succeeded

end LevelScript
