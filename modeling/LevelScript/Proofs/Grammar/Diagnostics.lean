import LevelScript.Proofs.Grammar.Mistakes
import LevelScript.Proofs.Grammar.Spans
import LevelScript.Proofs.Lexeme.Recovery
import LevelScript.Proofs.Text.Slices
import LevelScript.Report

namespace LevelScript

open Program (parse significant)
open Text (byteWidth byteWidth_append)

/-!
# Diagnostics point into their source

Faults stand on characters of their own, a mistake of the grammar on a token or at the end of
the source. So every diagnostic of a source has its only label on whole characters of it, and
can be reported with a part of the source.
-/

/-- A diagnostic has one label, which marks whole characters of a source as the failure. -/
def Diagnostic.PointsInto
    (diagnostic : Diagnostic)
    (source : String) :
    Prop :=
  ∃ span message,
    diagnostic.labels = [⟨span, message, true⟩] ∧
      span.start ≤ span.stop ∧ span.stop ≤ source.utf8ByteSize ∧ span.IsValidIn source

/-- A diagnostic is about a lexeme, which is not empty. If it is about a character, this is the
one at the label, so there is one. -/
structure Diagnostic.IsLexicalIn
    (diagnostic : Diagnostic)
    (source : String) :
    Prop where
  code : ∃ code ∈ [ErrorCode.e001, .e002, .e003, .e004], diagnostic.code = some code
  isNonempty : ∀ label ∈ diagnostic.labels, label.span.start < label.span.stop
  stray :
    diagnostic.code = some .e002 →
      ∃ character : Char,
        diagnostic.message = "unexpected character `" ++ character.toString ++ "`" ∧
          ∀ label ∈ diagnostic.labels, label.span.slice source = character.toString

/-- A diagnostic is about the grammar. -/
def Diagnostic.IsGrammatical
    (diagnostic : Diagnostic) :
    Prop :=
  diagnostic.code = some .e100 ∨ diagnostic.code = some .e101

/-- A report tells a diagnostic with its one label, which marks a part of the source. -/
structure Report.Tells
    (source : String)
    (diagnostic : Diagnostic)
    (report : Report) :
    Prop where
  kind : report.kind = .diagnostic
  message : report.message = diagnostic.message
  code : report.code = diagnostic.code.map ErrorCode.text
  help : report.help = diagnostic.help
  withSource : report.source = some source
  label : ∃ label span message,
    diagnostic.labels = [⟨span, message, true⟩] ∧
      report.labels = [label] ∧
      label.offset = span.start ∧
      label.offset + label.length = span.stop ∧
      label.offset + label.length ≤ source.utf8ByteSize ∧
      label.text = message ∧
      label.isPrimary = true

/-- A syntax error can be reported with its source. -/
structure SyntaxError.IsRenderable
    (error : SyntaxError)
    (source : String) :
    Prop where
  /-- It is about some lexemes or about the grammar, which shows one mistake only. -/
  kind :
    (error.diagnostics ≠ [] ∧ ∀ diagnostic ∈ error.diagnostics, diagnostic.IsLexicalIn source) ∨
      ∃ diagnostic, error.diagnostics = [diagnostic] ∧ diagnostic.IsGrammatical
  pointsInto : ∀ diagnostic ∈ error.diagnostics, diagnostic.PointsInto source
  inOrder : error.diagnostics.Pairwise fun first second =>
    ∀ label ∈ first.labels, ∀ later ∈ second.labels, label.span.Precedes later.span
  offset : ∃ offset,
    error.offset? = some offset ∧
      (error.diagnostics.flatMap fun diagnostic =>
        diagnostic.labels.map fun label => label.span.start).min? = some offset
  /-- No token is looked for behind the source, where the label would be outside of it. -/
  message : ∀ diagnostic ∈ error.diagnostics, diagnostic.message ≠ "unexpected end of input"
  reports :
    List.Forall₂ (Report.Tells source) error.diagnostics
      (Report.ofToolError (.level (.parse error source)))

/-! ## Lexical faults -/

namespace Lexeme

/-- Each fault stands on characters of its own, a stray character on itself. -/
theorem exists_text_of_mem_faults
    {offset : Nat}
    {characters : List Char}
    {fault : Located LexicalFault}
    (member : fault ∈ faults offset characters) :
    ∃ before text after,
      characters = before ++ text ++ after ∧
        text ≠ [] ∧
        fault.span = Span.ofWidth (offset + byteWidth before) (byteWidth text) ∧
        ∀ character, fault.value = .strayCharacter character → text = [character] := by
  obtain ⟨before, first, rest, taken, after, whole, cutIs, span⟩ :=
    exists_cut_of_mem_pieces (mem_faults_iff.1 member)
  have nonempty : taken ≠ [] := by
    simpa [cutIs] using cut_taken_ne_nil first rest
  refine ⟨before, taken, after, whole, nonempty, span, ?_⟩
  intro character isStray
  rw [isStray] at cutIs
  rcases fault_of_cut cutIs with ⟨_, same, text⟩ | isOther
  · cases same
    exact text
  · simp at isOther

/-- A fault covers at least one byte. -/
theorem start_lt_stop_of_mem_faults
    {offset : Nat}
    {characters : List Char}
    {fault : Located LexicalFault}
    (member : fault ∈ faults offset characters) :
    fault.span.start < fault.span.stop := by
  obtain ⟨before, text, after, _, nonempty, span, _⟩ := exists_text_of_mem_faults member
  have hasWidth : byteWidth text ≠ 0 := by
    intro noWidth
    exact nonempty (Text.eq_nil_of_byteWidth noWidth)
  have width : fault.span.stop = fault.span.start + byteWidth text := by
    rw [span]
    rfl
  omega

/-- The faults of a text stand one behind the other. -/
theorem pairwise_precedes_faults
    (offset : Nat)
    (characters : List Char) :
    (faults offset characters).Pairwise fun first second => first.span.Precedes second.span := by
  induction offset, characters using pieceInduction with
  | nil offset =>
      simp [faults, pieces]
  | cons offset first rest outcome taken after cutIs inductionHypothesis =>
      rw [faults_cons cutIs]
      cases isFault : fault? ⟨outcome, Span.ofWidth offset (byteWidth taken)⟩ with
      | none =>
          exact inductionHypothesis
      | some fault =>
          have isFirst : fault ∈ faults offset (first :: rest) := by
            rw [faults_cons cutIs, isFault]
            exact List.mem_append_left _ (List.mem_singleton_self fault)
          refine List.pairwise_cons.2 ⟨?_, inductionHypothesis⟩
          intro later isLater
          have covers := start_lt_stop_of_mem_faults isFirst
          have behind : fault.span.stop ≤ later.span.start := by
            rw [(fault?_eq_some_iff.1 isFault).2]
            exact le_start_of_mem_faults isLater
          exact ⟨by omega, behind⟩

end Lexeme

/-! ## Diagnostics -/

/-- A text that another one does not start with does not start it. -/
private theorem append_ne_of_not_prefix
    {start other : String}
    (notPrefix : ¬start.toList <+: other.toList)
    (rest : String) :
    start ++ rest ≠ other := by
  rintro rfl
  rw [String.toList_append] at notPrefix
  exact notPrefix (List.prefix_append _ _)

namespace LexicalFault

variable {source : String} {fault : Located LexicalFault}

/-- The end of the input is told only where a token is looked for behind it. -/
theorem message_ne_unexpectedEnd
    {fault : LexicalFault}
    (notEnd : fault ≠ .unexpectedEnd) :
    fault.message ≠ "unexpected end of input" := by
  cases fault with
  | unexpectedEnd =>
      exact (notEnd rfl).elim
  | strayCharacter character =>
      change "unexpected character `" ++ character.toString ++ "`" ≠ _
      rw [String.append_assoc]
      exact append_ne_of_not_prefix (by decide) _
  | _ =>
      exact (by decide)

theorem pointsInto_diagnostic
    (member : fault ∈ Lexeme.faults 0 source.toList) :
    (diagnostic fault).PointsInto source := by
  obtain ⟨before, text, after, whole, _, span, _⟩ := Lexeme.exists_text_of_mem_faults member
  rw [Nat.zero_add] at span
  have isValid : fault.span.IsValidIn source := by
    rw [span]
    exact Span.isValidIn_ofWidth whole
  exact
    ⟨fault.span, _, Lexeme.labels_diagnostic member, fault.span.start_le_stop, isValid.stop_le,
      isValid⟩

theorem isLexicalIn_diagnostic
    (member : fault ∈ Lexeme.faults 0 source.toList) :
    (diagnostic fault).IsLexicalIn source := by
  have isAtFault := Lexeme.labels_diagnostic member
  constructor
  case code =>
    refine ⟨fault.value.code, ?_, rfl⟩
    cases fault.value <;> simp [code]
  case isNonempty =>
    intro label isLabel
    rw [isAtFault, List.mem_singleton] at isLabel
    rw [isLabel]
    exact Lexeme.start_lt_stop_of_mem_faults member
  case stray =>
    intro isStray
    obtain ⟨before, text, after, whole, _, span, isText⟩ :=
      Lexeme.exists_text_of_mem_faults member
    rw [Nat.zero_add] at span
    cases value : fault.value with
    | strayCharacter character =>
        refine ⟨character, ?_, ?_⟩
        · rw [diagnostic, value]
          rfl
        · intro label isLabel
          rw [isAtFault, List.mem_singleton] at isLabel
          rw [isLabel, span, Span.slice_ofWidth whole, isText character value]
          rfl
    | unexpectedEnd =>
        exact (Lexeme.ne_unexpectedEnd_of_mem_faults member value).elim
    | _ =>
        rw [diagnostic, value] at isStray
        cases isStray

end LexicalFault

namespace Mistake

theorem isGrammatical_diagnostic
    (mistake : Mistake)
    (sourceEnd : Nat) :
    (mistake.diagnostic sourceEnd).IsGrammatical := by
  unfold diagnostic
  cases mistake.found with
  | some token =>
      exact Or.inl rfl
  | none =>
      exact Or.inr rfl

/-- A mistake is told by what is expected. -/
theorem message_ne_unexpectedEnd
    (mistake : Mistake)
    (sourceEnd : Nat) :
    (mistake.diagnostic sourceEnd).message ≠ "unexpected end of input" := by
  unfold diagnostic
  cases mistake.found <;>
    simp only [String.append_assoc] <;>
    exact append_ne_of_not_prefix (by decide) _

/-- A mistake marks a token of the source or its end. -/
theorem pointsInto_diagnostic
    {source : String}
    {mistake : Mistake}
    (isValid : ∀ token, mistake.found = some token → token.span.IsValidIn source) :
    (mistake.diagnostic source.utf8ByteSize).PointsInto source := by
  unfold diagnostic
  cases found : mistake.found with
  | some token =>
      have tokenIsValid := isValid token found
      exact
        ⟨token.span, _, rfl, token.span.start_le_stop, tokenIsValid.stop_le, tokenIsValid⟩
  | none =>
      have ends : String.Pos.Raw.IsValid source ⟨source.utf8ByteSize⟩ := by
        rw [← Text.byteWidth_toList]
        exact Text.isValid_of_append (List.append_nil _).symm
      exact ⟨Span.point source.utf8ByteSize, _, rfl, Nat.le_refl _, Nat.le_refl _, ends, ends⟩

end Mistake

/-! ## Syntax errors -/

namespace SyntaxError

variable {error : SyntaxError} {source : String}

/-- If the labels are in order, the first one starts first. -/
theorem exists_offset
    (hasDiagnostic : error.diagnostics ≠ [])
    (pointsInto : ∀ diagnostic ∈ error.diagnostics, diagnostic.PointsInto source)
    (inOrder : error.diagnostics.Pairwise fun first second =>
      ∀ label ∈ first.labels, ∀ later ∈ second.labels, label.span.Precedes later.span) :
    ∃ offset,
      error.offset? = some offset ∧
        (error.diagnostics.flatMap fun diagnostic =>
          diagnostic.labels.map fun label => label.span.start).min? = some offset := by
  obtain ⟨diagnostics⟩ := error
  obtain ⟨first, others, rfl⟩ := List.exists_cons_of_ne_nil hasDiagnostic
  obtain ⟨span, message, isLabel, _⟩ := pointsInto first (List.mem_cons_self)
  refine ⟨span.start, ?_, List.min?_eq_some_iff.2 ⟨?_, ?_⟩⟩
  · simp [offset?, Diagnostic.primarySpan?, isLabel]
  · simp [isLabel]
  · intro start member
    obtain ⟨diagnostic, isDiagnostic, ofLabel⟩ := List.mem_flatMap.1 member
    obtain ⟨label, isLater, rfl⟩ := List.mem_map.1 ofLabel
    rcases List.mem_cons.1 isDiagnostic with rfl | isOther
    · rw [isLabel, List.mem_singleton] at isLater
      rw [isLater]
    · have isFirst : ⟨span, message, true⟩ ∈ first.labels := by
        simp [isLabel]
      exact ((List.pairwise_cons.1 inOrder).1 diagnostic isOther _ isFirst label isLater).start.le

/-- Each diagnostic is told by a report of its own. -/
theorem forall₂_tells
    (pointsInto : ∀ diagnostic ∈ error.diagnostics, diagnostic.PointsInto source) :
    List.Forall₂ (Report.Tells source) error.diagnostics
      (Report.ofToolError (.level (.parse error source))) := by
  refine List.forall₂_map_right_iff.2 (List.forall₂_same.2 ?_)
  intro diagnostic member
  obtain ⟨span, message, isLabel, _, inBounds, _⟩ := pointsInto diagnostic member
  have whole : span.start + span.length = span.stop :=
    Nat.add_sub_cancel' span.start_le_stop
  refine ⟨rfl, rfl, rfl, rfl, rfl, .ofSpan span message true, span, message, isLabel, ?_, rfl,
    whole, whole.trans_le inBounds, rfl, rfl⟩
  simp [Report.ofDiagnostic, isLabel]

end SyntaxError

namespace Program

variable {source : String} {error : SyntaxError}

/-- A source with faults is answered with a diagnostic of each of them. -/
theorem isRenderable_of_faults
    {found : List (Located LexicalFault)}
    (failed : Lexeme.tokenize source = .error found) :
    SyntaxError.IsRenderable ⟨found.map LexicalFault.diagnostic⟩ source := by
  obtain ⟨rfl, hasFault⟩ := Lexeme.tokenize_eq_error_iff.1 failed
  have pointsInto :
      ∀ diagnostic ∈ (Lexeme.faults 0 source.toList).map LexicalFault.diagnostic,
        diagnostic.PointsInto source := by
    rw [List.forall_mem_map]
    exact fun _ => LexicalFault.pointsInto_diagnostic
  have inOrder :
      ((Lexeme.faults 0 source.toList).map LexicalFault.diagnostic).Pairwise fun first second =>
        ∀ label ∈ first.labels, ∀ later ∈ second.labels, label.span.Precedes later.span := by
    rw [List.pairwise_map]
    refine (Lexeme.pairwise_precedes_faults 0 source.toList).imp_of_mem ?_
    intro first second isFirst isSecond precedes label isLabel later isLater
    rw [Lexeme.labels_diagnostic isFirst, List.mem_singleton] at isLabel
    rw [Lexeme.labels_diagnostic isSecond, List.mem_singleton] at isLater
    rw [isLabel, isLater]
    exact precedes
  have hasDiagnostic : (Lexeme.faults 0 source.toList).map LexicalFault.diagnostic ≠ [] := by
    simpa using hasFault
  refine ⟨Or.inl ⟨hasDiagnostic, ?_⟩, pointsInto, inOrder,
    SyntaxError.exists_offset hasDiagnostic pointsInto inOrder, ?_,
    SyntaxError.forall₂_tells pointsInto⟩
  · rw [List.forall_mem_map]
    exact fun _ => LexicalFault.isLexicalIn_diagnostic
  · rw [List.forall_mem_map]
    exact fun fault member =>
      LexicalFault.message_ne_unexpectedEnd (Lexeme.ne_unexpectedEnd_of_mem_faults member)

/-- A source that is no program is answered with the diagnostic of its first mistake. -/
theorem isRenderable_of_mistake
    {tokens : List (Located Token)}
    {mistake : Mistake}
    (tokenized : Lexeme.tokenize source = .ok tokens)
    (failed : read .outside (significant tokens) = .error mistake) :
    SyntaxError.IsRenderable ⟨[mistake.diagnostic source.utf8ByteSize]⟩ source := by
  obtain ⟨before, after, tokensAre, getsStuck⟩ := exists_getsStuck_of_read failed
  have isValid : ∀ token, mistake.found = some token → token.span.IsValidIn source := by
    intro token isFound
    have inAfter := List.mem_of_head? (getsStuck.found.symm.trans isFound)
    have isSignificant : token ∈ significant tokens := by
      rw [tokensAre]
      exact List.mem_append_right before inAfter
    exact isValidIn_of_tokenize tokenized (List.mem_filter.1 isSignificant).1
  have pointsInto :
      ∀ diagnostic ∈ [mistake.diagnostic source.utf8ByteSize], diagnostic.PointsInto source := by
    rw [List.forall_mem_singleton]
    exact Mistake.pointsInto_diagnostic isValid
  have inOrder := List.pairwise_singleton
    (fun first second : Diagnostic =>
      ∀ label ∈ first.labels, ∀ later ∈ second.labels, label.span.Precedes later.span)
    (mistake.diagnostic source.utf8ByteSize)
  refine ⟨Or.inr ⟨_, rfl, mistake.isGrammatical_diagnostic _⟩, pointsInto, inOrder,
    SyntaxError.exists_offset (List.cons_ne_nil _ _) pointsInto inOrder, ?_,
    SyntaxError.forall₂_tells pointsInto⟩
  rw [List.forall_mem_singleton]
  exact mistake.message_ne_unexpectedEnd _

/--
The answer to a source that does not parse can be rendered. Either it has one or more
diagnostics of lexical faults, each on characters of its own and one behind the other, or it has
one diagnostic of the grammar. Each diagnostic has its one label on whole characters of the
source, the offset of the answer is where the first label starts, and each diagnostic is told by
a report of its own, which marks a part of the source.
-/
theorem isRenderable_of_parse
    (failed : parse source = .error error) :
    error.IsRenderable source := by
  cases tokenized : Lexeme.tokenize source with
  | error found =>
      unfold parse parseTokens at failed
      rw [tokenized] at failed
      cases failed
      exact isRenderable_of_faults tokenized
  | ok tokens =>
      rw [parse_eq_of_tokenize tokenized, Lexeme.endOffset_eq tokenized] at failed
      cases result : read .outside (significant tokens) with
      | ok statements =>
          rw [result] at failed
          cases failed
      | error mistake =>
          rw [result] at failed
          cases failed
          exact isRenderable_of_mistake tokenized result

/-- Two marks are stray and a comment stays open behind a letter of two bytes, where the offset
of the whole answer is. -/
theorem isRenderable_of_parse_stray :
    ∃ error,
      parse "é-#/*" = .error error ∧
        error.diagnostics.map Diagnostic.code = [some .e002, some .e002, some .e004] ∧
        error.offset? = some 2 ∧
        error.IsRenderable "é-#/*" := by
  have failed :
      parse "é-#/*" =
        .error
          ⟨[⟨"unexpected character `-`", some .e002,
              [⟨⟨2, 3, by omega⟩, "unexpected character", true⟩], none⟩,
            ⟨"unexpected character `#`", some .e002,
              [⟨⟨3, 4, by omega⟩, "unexpected character", true⟩], none⟩,
            ⟨"unterminated block comment", some .e004,
              [⟨⟨4, 6, by omega⟩, "unterminated block comment", true⟩],
              some "add closing `*/`"⟩]⟩ := by
    decide +kernel
  exact ⟨_, failed, rfl, rfl, isRenderable_of_parse failed⟩

end Program

end LevelScript
