import LevelScript.Proofs.Canonical.Parsed
import LevelScript.Proofs.Canonical.RoundTrip
import LevelScript.Proofs.Loader.Sources
import LevelScript.Proofs.Session.Correspondence

namespace LevelScript

/-!
# Formatting and loading

A level and its canonical form load alike: as the same level, or with the same fault of the
same name or statement. The canonical text holds the same statements at other places, and
loading looks at places only to locate an error.
-/

/-! ## Parts of statements -/

/-- What an error in a statement can point at. -/
inductive StatementPart where
  | whole
  /-- The name that the statement begins with. -/
  | name
  | className
  | relativeTo
  | movedConnector
  | base
  | baseConnector
deriving Repr, DecidableEq

/-- The place of a part, if the statement has such a part. -/
def StatementPart.span?
    (part : StatementPart)
    (statement : Located (Statement α)) :
    Option Span :=
  match part, statement.value with
  | .whole, _ => some statement.span
  | .name, .abbreviation short _ => some short.span
  | .name, .declaration entity _ _ => some entity.span
  | .name, .placement entity _ _ => some entity.span
  | .name, .connection moved _ _ _ => some moved.span
  | .className, .abbreviation _ entityClass => some entityClass.span
  | .className, .declaration _ entityClass _ => some entityClass.span
  | .relativeTo, .placement _ _ origin => origin.map Located.span
  | .movedConnector, .connection _ connector _ _ => some connector.span
  | .base, .connection _ _ entity _ => some entity.span
  | .baseConnector, .connection _ _ _ connector => some connector.span
  | _, _ => none

/-- The same part of two statements is found at these places. -/
def SamePart
    (first second : Located (Statement α))
    (before after : Span) :
    Prop :=
  ∃ part : StatementPart, part.span? first = some before ∧ part.span? second = some after

/-- The same part of the same statement in two programs is found at these places. -/
def SamePlace
    (first second : List (Located (Statement α)))
    (before after : Span) :
    Prop :=
  ∃ (index : Nat) (statement counterpart : Located (Statement α)),
    first[index]? = some statement ∧
      second[index]? = some counterpart ∧
      SamePart statement counterpart before after

/-! ## The same statements at other places -/

private theorem Located.corresponds_of_respan
    {places : Span → Span → Prop}
    {first second : Located Name}
    (same : first.respan (fun _ => Span.origin) = second.respan fun _ => Span.origin)
    (span : places first.span second.span) :
    first.Corresponds places second := by
  have sameValue := congrArg Located.value same
  exact ⟨sameValue, span⟩

/-- Statements with the same words and values correspond part by part. -/
theorem Statement.corresponds_of_unplaced
    {places : Span → Span → Prop}
    {first second : Located (Statement α)}
    (samePart : ∀ before after, SamePart first second before after → places before after)
    (same : first.value.unplaced = second.value.unplaced) :
    first.StatementsCorrespond places second := by
  obtain ⟨firstValue, firstSpan⟩ := first
  obtain ⟨secondValue, secondSpan⟩ := second
  refine ⟨?_, samePart _ _ ⟨.whole, rfl, rfl⟩⟩
  cases firstValue with
  | abbreviation short className =>
      cases secondValue with
      | abbreviation short' className' =>
          simp only [unplaced, respan, abbreviation.injEq] at same
          exact
            .abbreviation
              (Located.corresponds_of_respan same.1 (samePart _ _ ⟨.name, rfl, rfl⟩))
              (Located.corresponds_of_respan same.2 (samePart _ _ ⟨.className, rfl, rfl⟩))
      | _ =>
          cases same
  | declaration name className arguments =>
      cases secondValue with
      | declaration name' className' arguments' =>
          simp only [unplaced, respan, declaration.injEq] at same
          obtain ⟨sameName, sameClass, sameArguments⟩ := same
          have sameValues := congrArg (List.map Located.value) sameArguments
          simp only [List.map_map] at sameValues
          exact
            .declaration
              (Located.corresponds_of_respan sameName (samePart _ _ ⟨.name, rfl, rfl⟩))
              (Located.corresponds_of_respan sameClass (samePart _ _ ⟨.className, rfl, rfl⟩))
              sameValues
      | _ =>
          cases same
  | placement name position relativeTo =>
      cases secondValue with
      | placement name' position' relativeTo' =>
          simp only [unplaced, respan, placement.injEq] at same
          obtain ⟨sameName, samePosition, sameOrigin⟩ := same
          have nameCorresponds : name.Corresponds places name' :=
            Located.corresponds_of_respan sameName (samePart _ _ ⟨.name, rfl, rfl⟩)
          have positionIs := congrArg Located.value samePosition
          cases relativeTo with
          | none =>
              cases relativeTo' with
              | none =>
                  exact .absolute nameCorresponds positionIs
              | some =>
                  cases sameOrigin
          | some origin =>
              cases relativeTo' with
              | none =>
                  cases sameOrigin
              | some origin' =>
                  exact
                    .relative nameCorresponds positionIs
                      (Located.corresponds_of_respan (Option.some.inj sameOrigin)
                        (samePart _ _ ⟨.relativeTo, rfl, rfl⟩))
      | _ =>
          cases same
  | connection moved movedConnector base baseConnector =>
      cases secondValue with
      | connection moved' movedConnector' base' baseConnector' =>
          simp only [unplaced, respan, connection.injEq] at same
          obtain ⟨sameMoved, sameMovedConnector, sameBase, sameBaseConnector⟩ := same
          exact
            .connection
              (Located.corresponds_of_respan sameMoved (samePart _ _ ⟨.name, rfl, rfl⟩))
              (Located.corresponds_of_respan sameMovedConnector
                (samePart _ _ ⟨.movedConnector, rfl, rfl⟩))
              (Located.corresponds_of_respan sameBase (samePart _ _ ⟨.base, rfl, rfl⟩))
              (Located.corresponds_of_respan sameBaseConnector
                (samePart _ _ ⟨.baseConnector, rfl, rfl⟩))
      | _ =>
          cases same

/-- Programs with the same words and values correspond part by part. -/
theorem Program.corresponds_of_unplaced
    {places : Span → Span → Prop}
    {first second : List (Located (Statement α))}
    (samePlace : ∀ before after, SamePlace first second before after → places before after)
    (same : unplaced first = unplaced second) :
    List.Forall₂ (Located.StatementsCorrespond places) first second := by
  induction first generalizing second with
  | nil =>
      cases second with
      | nil =>
          exact .nil
      | cons =>
          cases same
  | cons statement rest inductionHypothesis =>
      cases second with
      | nil =>
          cases same
      | cons other others =>
          simp only [unplaced_cons, List.cons.injEq] at same
          refine .cons (Statement.corresponds_of_unplaced ?_ same.1) (inductionHypothesis ?_ same.2)
          · intro before after samePart
            exact samePlace before after ⟨0, statement, other, rfl, rfl, samePart⟩
          · intro before after samePart
            obtain ⟨index, found, counterpart, isFound, isCounterpart, samePart⟩ := samePart
            exact
              samePlace before after
                ⟨index + 1, found, counterpart, isFound, isCounterpart, samePart⟩

/-! ## Loading the canonical form -/

namespace Loader

/--
A source that parses has a canonical text in every layout, and with every registry and
policy the two load alike. Either both give the same level, or both fail with the same
fault, hence with the same kind, message and reason, and at the same part of the same
statement.
-/
theorem loadSource_format
    (loader : Loader)
    (layout : PageLayout)
    {source : String}
    {statements : List (Located (Statement Float))}
    (parsed : Program.parse source = .ok statements) :
    ∃ text reread,
      Canonical.format layout statements = .ok text ∧
        Program.parse text = .ok reread ∧
        ((∃ level,
          (loader.loadSource source).outcome = .ok level ∧
            (loader.loadSource text).outcome = .ok level) ∨
        ∃ fault before after,
          (loader.loadSource source).outcome = .error (.load ⟨fault, before⟩ source) ∧
            (loader.loadSource text).outcome = .error (.load ⟨fault, after⟩ text) ∧
            SamePlace statements reread before after) := by
  have writable : ∀ statement ∈ statements, statement.value.IsWritable :=
    fun statement member => Program.isWritable_of_parse parsed member
  obtain ⟨reread, rereadParsed, same⟩ := Canonical.exists_parse_followingText layout writable
  refine ⟨_, reread, Canonical.format_of_writable layout writable, rereadParsed, ?_⟩
  have sameOutcome :=
    Level.ofStatements_sameOutcome loader.registry loader.policy
      (Program.corresponds_of_unplaced (fun _ _ samePlace => samePlace) same.symm)
  rw [loader.outcome_loadSource parsed, loader.outcome_loadSource rereadParsed]
  unfold runStatements
  generalize (Level.ofStatements loader.registry loader.policy statements).outcome = first
    at sameOutcome ⊢
  generalize (Level.ofStatements loader.registry loader.policy reread).outcome = second
    at sameOutcome ⊢
  cases sameOutcome with
  | ok level =>
      exact Or.inl ⟨level, rfl, rfl⟩
  | error fault samePlace =>
      exact Or.inr ⟨fault, _, _, rfl, rfl, samePlace⟩

/-- An abbreviation for an unknown class fails alike before and after formatting. -/
theorem loadSource_format_unknownClass :
    ∃ statements text reread,
      Program.parse "using a as b" = .ok statements ∧
        Canonical.format {} statements = .ok text ∧
        Program.parse text = .ok reread ∧
        ((∃ level,
          (loadSource ⟨Registry.empty, .allow⟩ "using a as b").outcome = .ok level ∧
            (loadSource ⟨Registry.empty, .allow⟩ text).outcome = .ok level) ∨
        ∃ fault before after,
          (loadSource ⟨Registry.empty, .allow⟩ "using a as b").outcome =
              .error (.load ⟨fault, before⟩ "using a as b") ∧
            (loadSource ⟨Registry.empty, .allow⟩ text).outcome =
              .error (.load ⟨fault, after⟩ text) ∧
            SamePlace statements reread before after) := by
  have parsed :
      Program.parse "using a as b" =
        .ok
          [⟨.abbreviation ⟨⟨"a"⟩, Span.ofWidth 6 1⟩ ⟨⟨"b"⟩, Span.ofWidth 11 1⟩,
            Span.ofWidth 6 6⟩] := by
    decide +kernel
  obtain ⟨text, reread, results⟩ := loadSource_format ⟨Registry.empty, .allow⟩ {} parsed
  exact ⟨_, text, reread, parsed, results⟩

end Loader

end LevelScript
