import LevelScript.Proofs.Canonical.Equality
import LevelScript.Proofs.Canonical.Parsed
import LevelScript.Proofs.Canonical.RoundTrip
import LevelScript.Proofs.Tool.Printing

namespace LevelScript

/-!
# The canonical form as a normal form

Printing refuses exactly the programs that no source spells. What it prints depends on the
words and values of the statements only, and two programs are printed alike only if they
have the same words and values; so the canonical text stands for all sources of a program.
-/

namespace Canonical

/-! ## Printing does not look at places -/

/-- A statement is printed without regard to its places. -/
theorem pair_unplaced
    (statement : Statement Float) :
    pair statement.unplaced = pair statement := by
  cases statement with
  | declaration name className literals =>
      have sameArguments :
          arguments (literals.map (Located.respan fun _ => Span.origin)) =
            arguments literals := by
        unfold arguments
        rw [List.mapM_map]
        rfl
      simp only [Statement.unplaced, Statement.respan, pair, sameArguments]
      rfl
  | placement name position relativeTo =>
      cases relativeTo <;> rfl
  | _ =>
      rfl

/-- Statements with the same words and values are printed alike. -/
theorem following_eq_of_unplaced
    {layout : PageLayout}
    {previous : Option StatementKind}
    {first second : List (Located (Statement Float))}
    (same : Program.unplaced first = Program.unplaced second) :
    following layout previous first = following layout previous second := by
  induction first generalizing previous second with
  | nil =>
      cases second with
      | nil =>
          rfl
      | cons =>
          cases same
  | cons statement rest inductionHypothesis =>
      cases second with
      | nil =>
          cases same
      | cons other others =>
          simp only [Program.unplaced_cons, List.cons.injEq] at same
          obtain ⟨sameFirst, sameRest⟩ := same
          have sameKind : statement.value.kind = other.value.kind := by
            rw [← Statement.kind_unplaced, sameFirst, Statement.kind_unplaced]
          have samePair : pair statement.value = pair other.value := by
            rw [← pair_unplaced, sameFirst, pair_unplaced]
          unfold following
          simp only [sameKind, samePair, inductionHypothesis sameRest]

/-- Programs with the same words and values have the same canonical text. -/
theorem format_eq_of_unplaced
    (layout : PageLayout)
    {first second : List (Located (Statement Float))}
    (same : Program.unplaced first = Program.unplaced second) :
    format layout first = format layout second := by
  unfold format
  rw [following_eq_of_unplaced same]

/-! ## What is printed determines the program -/

/-- Only the same words and values have the same canonical text. -/
theorem unplaced_eq_of_format
    {layout : PageLayout}
    {first second : List (Located (Statement Float))}
    (firstWritable : ∀ statement ∈ first, statement.value.IsWritable)
    (secondWritable : ∀ statement ∈ second, statement.value.IsWritable)
    (same : format layout first = format layout second) :
    Program.unplaced first = Program.unplaced second := by
  rw [format_of_writable layout firstWritable, format_of_writable layout secondWritable] at same
  have sameText := Except.ok.inj same
  obtain ⟨firstReread, firstParsed, sameFirst⟩ := exists_parse_followingText layout firstWritable
  obtain ⟨secondReread, secondParsed, sameSecond⟩ :=
    exists_parse_followingText layout secondWritable
  rw [sameText, secondParsed] at firstParsed
  cases firstParsed
  exact sameFirst.symm.trans sameSecond

/-! ## What is refused -/

/-- A program is refused if and only if not all of its statements are writable. -/
theorem exists_error_iff
    {layout : PageLayout}
    {statements : List (Located (Statement Float))} :
    (∃ fault, format layout statements = .error fault) ↔
      ¬∀ statement ∈ statements, statement.value.IsWritable := by
  constructor
  · intro spelled writable
    obtain ⟨fault, refused⟩ := spelled
    rw [format_of_writable layout writable] at refused
    cases refused
  · intro unwritable
    cases outcome : format layout statements with
    | error fault =>
        exact ⟨fault, rfl⟩
    | ok text =>
        exact (unwritable (format_eq_ok_iff.1 outcome).1).elim

/-- The writable programs are those that some source spells. -/
theorem writable_iff_exists_source
    {statements : List (Located (Statement Float))} :
    (∀ statement ∈ statements, statement.value.IsWritable) ↔
      ∃ source reread,
        Program.parse source = .ok reread ∧ (reread == statements) = true := by
  constructor
  · intro writable
    obtain ⟨reread, parsed, same⟩ := exists_parse_followingText default writable
    refine ⟨_, reread, parsed, Program.beq_of_unplaced same ?_⟩
    intro statement member
    exact Program.isWritable_of_parse parsed member
  · intro spelled
    obtain ⟨source, reread, parsed, same⟩ := spelled
    exact
      Program.isWritable_of_beq same fun statement member =>
        Program.isWritable_of_parse parsed member

/-- The writable programs are those that some source spells with the same bits. -/
theorem writable_iff_exists_source_unplaced
    {statements : List (Located (Statement Float))} :
    (∀ statement ∈ statements, statement.value.IsWritable) ↔
      ∃ source reread,
        Program.parse source = .ok reread ∧
          Program.unplaced reread = Program.unplaced statements := by
  constructor
  · intro writable
    obtain ⟨reread, parsed, same⟩ := exists_parse_followingText default writable
    exact ⟨_, reread, parsed, same⟩
  · intro spelled
    obtain ⟨source, reread, parsed, same⟩ := spelled
    have rereadWritable : ∀ statement ∈ reread, statement.value.IsWritable :=
      fun statement member => Program.isWritable_of_parse parsed member
    exact Program.isWritable_of_beq (Program.beq_of_unplaced same rereadWritable) rereadWritable

end Canonical

/-! ## The normal form -/

namespace Canonical

/--
The canonical form is a normal form of programs. Exactly the programs that no source spells
are refused, whether equality is `==` or that of the bits; hence none that was parsed is,
and the tool never reports one. The canonical text of a parsed program parses to a program
with the same canonical texts in every layout, and two parsed programs have the same
canonical text exactly if they have the same words and values, bit for bit.
-/
theorem format_isNormalForm
    (layout : PageLayout) :
    (∀ statements,
      (∃ fault, format layout statements = .error fault) ↔
        ¬∃ source reread,
          Program.parse source = .ok reread ∧ (reread == statements) = true) ∧
    (∀ statements,
      (∃ fault, format layout statements = .error fault) ↔
        ¬∃ source reread,
          Program.parse source = .ok reread ∧
            Program.unplaced reread = Program.unplaced statements) ∧
    (∀ surroundings invocation fault,
      (Tool.run surroundings invocation).outcome ≠ .error (.format fault)) ∧
    (∀ source statements (other : PageLayout),
      Program.parse source = .ok statements →
        ∃ text reread final,
          format layout statements = .ok text ∧
            Program.parse text = .ok reread ∧
            format other reread = .ok final ∧
            format other statements = .ok final) ∧
    ∀ first second statements others,
      Program.parse first = .ok statements →
        Program.parse second = .ok others →
        (format layout statements = format layout others ↔
          Program.unplaced statements = Program.unplaced others) := by
  have parsedWritable : ∀ {source statements},
      Program.parse source = .ok statements →
        ∀ statement ∈ statements, statement.value.IsWritable :=
    fun parsed statement member => Program.isWritable_of_parse parsed member
  refine ⟨?_, ?_, ?_, ?_, ?_⟩
  · intro statements
    rw [exists_error_iff, writable_iff_exists_source]
  · intro statements
    rw [exists_error_iff, writable_iff_exists_source_unplaced]
  · exact Tool.run_ne_formatFault
  · intro source statements other parsed
    have writable := parsedWritable parsed
    obtain ⟨reread, textParsed, same⟩ := exists_parse_followingText layout writable
    refine
      ⟨_, reread, _, format_of_writable layout writable, textParsed, ?_,
        format_of_writable other writable⟩
    rw [format_eq_of_unplaced other same, format_of_writable other writable]
  · intro first second statements others firstParsed secondParsed
    constructor
    · exact unplaced_eq_of_format (parsedWritable firstParsed) (parsedWritable secondParsed)
    · exact format_eq_of_unplaced layout

/-- An abbreviation without a line end is printed with one, and again in the same way. -/
theorem format_isNormalForm_abbreviation :
    ∃ statements text reread final,
      Program.parse "using a as b" = .ok statements ∧
        format {} statements = .ok text ∧
        Program.parse text = .ok reread ∧
        format { grouped := false } reread = .ok final ∧
        format { grouped := false } statements = .ok final := by
  have parsed :
      Program.parse "using a as b" =
        .ok
          [⟨.abbreviation ⟨⟨"a"⟩, Span.ofWidth 6 1⟩ ⟨⟨"b"⟩, Span.ofWidth 11 1⟩,
            Span.ofWidth 6 6⟩] := by
    decide +kernel
  obtain ⟨text, reread, final, results⟩ :=
    (format_isNormalForm {}).2.2.2.1 _ _ { grouped := false } parsed
  exact ⟨_, text, reread, final, parsed, results⟩

end Canonical

end LevelScript
