import LevelScript.Proofs.Canonical.Writable
import LevelScript.Proofs.Grammar.Respan

namespace LevelScript

/-!
# Equality of statements

`==` compares the words and values of statements and not their places. It compares numbers
as numbers, so both zeros are equal and no undefined number is equal to anything. What can
be printed is equal to itself, and whatever is equal to it can be printed too.
-/

namespace Binary64

theorem beq_self_of_isFinite
    {value : Float}
    (finite : value.isFinite = true) :
    (value == value) = true := by
  rw [Float.beq_self_iff]
  intro undefined
  rw [undefined] at finite
  exact absurd finite (by decide)

theorem isFinite_of_beq
    {first second : Float}
    (same : (first == second) = true)
    (finite : first.isFinite = true) :
    second.isFinite = true := by
  obtain ⟨-, -, identical | ⟨-, negativeZero⟩ | ⟨-, positiveZero⟩⟩ :=
    Float.beq_iff_ne_nan_and_eq.1 same
  · rwa [← identical]
  · rw [negativeZero]
    decide
  · rw [positiveZero]
    decide

end Binary64

/-! ## Lists -/

section Lists

variable {α β : Type} [BEq α] {first second : List α}

/-- Lists with the same images are equal if items with the same image are. -/
theorem list_beq_of_map_eq
    {image : α → β}
    {holds : α → Prop}
    (itemBeq : ∀ item other, image item = image other → holds item → (item == other) = true)
    (same : first.map image = second.map image)
    (allHold : ∀ item ∈ first, holds item) :
    (first == second) = true := by
  induction first generalizing second with
  | nil =>
      cases second with
      | nil =>
          rfl
      | cons =>
          cases same
  | cons item rest inductionHypothesis =>
      cases second with
      | nil =>
          cases same
      | cons other others =>
          simp only [List.map_cons, List.cons.injEq] at same
          obtain ⟨itemHolds, restHold⟩ := List.forall_mem_cons.1 allHold
          have itemEqual := itemBeq item other same.1 itemHolds
          have restEqual := inductionHypothesis same.2 restHold
          change (item == other && (rest == others)) = true
          rw [itemEqual, restEqual]
          rfl

/-- What holds of all items of a list holds of those of an equal one. -/
theorem forall_mem_of_list_beq
    {holds : α → Prop}
    (itemHolds : ∀ item other, (item == other) = true → holds item → holds other)
    (same : (first == second) = true)
    (allHold : ∀ item ∈ first, holds item) :
    ∀ item ∈ second, holds item := by
  induction first generalizing second with
  | nil =>
      cases second with
      | nil =>
          exact allHold
      | cons =>
          cases same
  | cons item rest inductionHypothesis =>
      cases second with
      | nil =>
          cases same
      | cons other others =>
          change (item == other && (rest == others)) = true at same
          rw [Bool.and_eq_true] at same
          obtain ⟨firstHolds, restHold⟩ := List.forall_mem_cons.1 allHold
          have otherHolds := itemHolds item other same.1 firstHolds
          have othersHold := inductionHypothesis same.2 restHold
          exact List.forall_mem_cons.2 ⟨otherHolds, othersHold⟩

end Lists

/-! ## What can be printed is equal to itself -/

theorem Vec3.beq_self
    {vector : Vec3 Float}
    (finite : vector.IsFinite) :
    (vector == vector) = true := by
  obtain ⟨finiteX, finiteY, finiteZ⟩ := finite
  change (vector.x == vector.x && (vector.y == vector.y && vector.z == vector.z)) = true
  rw [Binary64.beq_self_of_isFinite finiteX, Binary64.beq_self_of_isFinite finiteY,
    Binary64.beq_self_of_isFinite finiteZ]
  rfl

theorem Literal.beq_self
    {literal : Literal Float}
    (writable : literal.IsWritable) :
    (literal == literal) = true := by
  cases literal with
  | string text =>
      exact beq_self_eq_true text
  | number value =>
      exact Binary64.beq_self_of_isFinite writable
  | vector value =>
      exact value.beq_self writable

theorem Located.beq_of_value
    {first second : Located Name}
    (same : first.value = second.value) :
    (first == second) = true := by
  change (first.value == second.value) = true
  rw [same]
  exact beq_self_eq_true second.value

/-- Writable arguments are equal to the same ones at other places. -/
theorem Statement.arguments_beq
    {first second : List (Located (Literal Float))}
    (same : first.map Located.value = second.map Located.value)
    (writable : ∀ argument ∈ first, argument.value.IsWritable) :
    (first == second) = true := by
  refine list_beq_of_map_eq ?_ same writable
  intro argument other sameValue argumentWritable
  change (argument.value == other.value) = true
  rw [← sameValue]
  exact Literal.beq_self argumentWritable

/-- A writable statement is equal to the same one at other places. -/
theorem Statement.beq_of_unplaced
    {first second : Statement Float}
    (same : first.unplaced = second.unplaced)
    (writable : first.IsWritable) :
    (first == second) = true := by
  cases first with
  | abbreviation short className =>
      cases second with
      | abbreviation short' className' =>
          simp only [unplaced, respan, Located.respan, abbreviation.injEq, Located.mk.injEq,
            and_true] at same
          obtain ⟨sameShort, sameClass⟩ := same
          change (short == short' && className == className') = true
          simp only [Located.beq_of_value sameShort, Located.beq_of_value sameClass,
            Bool.and_self]
      | _ =>
          cases same
  | declaration name className arguments =>
      cases second with
      | declaration name' className' arguments' =>
          simp only [unplaced, respan, Located.respan, declaration.injEq, Located.mk.injEq,
            and_true] at same
          obtain ⟨sameName, sameClass, sameArguments⟩ := same
          have sameValues := congrArg (List.map Located.value) sameArguments
          simp only [List.map_map, Function.comp_def] at sameValues
          have argumentsEqual := arguments_beq sameValues writable.1
          change
            (name == name' && (className == className' && arguments == arguments')) = true
          simp only [Located.beq_of_value sameName, Located.beq_of_value sameClass,
            argumentsEqual, Bool.and_self]
      | _ =>
          cases same
  | placement name position relativeTo =>
      cases second with
      | placement name' position' relativeTo' =>
          simp only [unplaced, respan, Located.respan, placement.injEq, Located.mk.injEq,
            and_true] at same
          obtain ⟨sameName, samePosition, sameOrigin⟩ := same
          have samePlace : (position == position') = true := by
            change (position.value == position'.value) = true
            rw [← samePosition]
            exact position.value.beq_self writable.2.1
          have sameReference : (relativeTo == relativeTo') = true := by
            cases relativeTo with
            | none =>
                cases relativeTo' with
                | none =>
                    rfl
                | some =>
                    cases sameOrigin
            | some origin =>
                cases relativeTo' with
                | none =>
                    cases sameOrigin
                | some origin' =>
                    have sameValue := congrArg Located.value (Option.some.inj sameOrigin)
                    exact Located.beq_of_value sameValue
          change
            (name == name' && (position == position' && relativeTo == relativeTo')) = true
          simp only [Located.beq_of_value sameName, samePlace, sameReference, Bool.and_self]
      | _ =>
          cases same
  | connection moved movedConnector base baseConnector =>
      cases second with
      | connection moved' movedConnector' base' baseConnector' =>
          simp only [unplaced, respan, Located.respan, connection.injEq, Located.mk.injEq,
            and_true] at same
          obtain ⟨sameMoved, sameMovedConnector, sameBase, sameBaseConnector⟩ := same
          change
            (moved == moved' && (movedConnector == movedConnector' &&
              (base == base' && baseConnector == baseConnector'))) = true
          simp only [Located.beq_of_value sameMoved, Located.beq_of_value sameMovedConnector,
            Located.beq_of_value sameBase, Located.beq_of_value sameBaseConnector,
            Bool.and_self]
      | _ =>
          cases same

/-! ## What is equal to something printable can be printed -/

theorem Vec3.isFinite_of_beq
    {first second : Vec3 Float}
    (same : (first == second) = true)
    (finite : first.IsFinite) :
    second.IsFinite := by
  change (first.x == second.x && (first.y == second.y && first.z == second.z)) = true at same
  simp only [Bool.and_eq_true] at same
  exact
    ⟨Binary64.isFinite_of_beq same.1 finite.1, Binary64.isFinite_of_beq same.2.1 finite.2.1,
      Binary64.isFinite_of_beq same.2.2 finite.2.2⟩

theorem Literal.isWritable_of_beq
    {first second : Literal Float}
    (same : (first == second) = true)
    (writable : first.IsWritable) :
    second.IsWritable := by
  cases first with
  | string text =>
      cases second with
      | string text' =>
          exact eq_of_beq (show (text == text') = true from same) ▸ writable
      | _ =>
          cases same
  | number value =>
      cases second with
      | number value' =>
          exact Binary64.isFinite_of_beq same writable
      | _ =>
          cases same
  | vector value =>
      cases second with
      | vector value' =>
          exact Vec3.isFinite_of_beq same writable
      | _ =>
          cases same

theorem Located.value_of_beq
    {first second : Located Name}
    (same : (first == second) = true) :
    first.value = second.value :=
  eq_of_beq (show (first.value == second.value) = true from same)

theorem Statement.arguments_isWritable_of_beq
    {first second : List (Located (Literal Float))}
    (same : (first == second) = true)
    (writable : ∀ argument ∈ first, argument.value.IsWritable) :
    ∀ argument ∈ second, argument.value.IsWritable :=
  forall_mem_of_list_beq (fun _ _ => Literal.isWritable_of_beq) same writable

/-- What is equal to a writable statement is writable. -/
theorem Statement.isWritable_of_beq
    {first second : Statement Float}
    (same : (first == second) = true)
    (writable : first.IsWritable) :
    second.IsWritable := by
  cases first with
  | abbreviation short className =>
      cases second with
      | abbreviation short' className' =>
          change (short == short' && className == className') = true at same
          rw [Bool.and_eq_true] at same
          exact
            ⟨Located.value_of_beq same.1 ▸ writable.1, Located.value_of_beq same.2 ▸ writable.2⟩
      | _ =>
          cases same
  | declaration name className arguments =>
      cases second with
      | declaration name' className' arguments' =>
          change (name == name' && (className == className' && arguments == arguments')) = true
            at same
          simp only [Bool.and_eq_true] at same
          exact
            ⟨arguments_isWritable_of_beq same.2.2 writable.1,
              Located.value_of_beq same.1 ▸ writable.2.1,
              Located.value_of_beq same.2.1 ▸ writable.2.2⟩
      | _ =>
          cases same
  | placement name position relativeTo =>
      cases second with
      | placement name' position' relativeTo' =>
          change (name == name' && (position == position' && relativeTo == relativeTo')) = true
            at same
          simp only [Bool.and_eq_true] at same
          refine
            ⟨Located.value_of_beq same.1 ▸ writable.1,
              Vec3.isFinite_of_beq same.2.1 writable.2.1, ?_⟩
          intro origin isOrigin
          subst isOrigin
          cases relativeTo with
          | none =>
              cases same.2.2
          | some first =>
              exact Located.value_of_beq same.2.2 ▸ writable.2.2 first rfl
      | _ =>
          cases same
  | connection moved movedConnector base baseConnector =>
      cases second with
      | connection moved' movedConnector' base' baseConnector' =>
          change
            (moved == moved' && (movedConnector == movedConnector' &&
              (base == base' && baseConnector == baseConnector'))) = true at same
          simp only [Bool.and_eq_true] at same
          exact
            ⟨Located.value_of_beq same.1 ▸ writable.1,
              Located.value_of_beq same.2.1 ▸ writable.2.1,
              Located.value_of_beq same.2.2.1 ▸ writable.2.2.1,
              Located.value_of_beq same.2.2.2 ▸ writable.2.2.2⟩
      | _ =>
          cases same

/-! ## Programs -/

namespace Program

/-- Writable statements are equal to the same ones at other places. -/
theorem beq_of_unplaced
    {first second : List (Located (Statement Float))}
    (same : Program.unplaced first = Program.unplaced second)
    (writable : ∀ statement ∈ first, statement.value.IsWritable) :
    (first == second) = true :=
  list_beq_of_map_eq (fun _ _ => Statement.beq_of_unplaced) same writable

/-- Statements that are equal to writable ones are writable. -/
theorem isWritable_of_beq
    {first second : List (Located (Statement Float))}
    (same : (first == second) = true)
    (writable : ∀ statement ∈ first, statement.value.IsWritable) :
    ∀ statement ∈ second, statement.value.IsWritable :=
  forall_mem_of_list_beq (fun _ _ => Statement.isWritable_of_beq) same writable

end Program

end LevelScript
