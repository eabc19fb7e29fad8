import LevelScript.Proofs.Canonical.ReadBack
import LevelScript.Proofs.Grammar.Soundness

namespace LevelScript

open Lexeme (Reads)
open Program (read)

/-!
# Round trip of the canonical form

Every printed text is read as the statements it was printed from. Only their places differ:
these are now the places in the printed text.
-/

/-! ## The tokens of the canonical text -/

/-- The tokens go on from any place where a statement of the given kind, or none, may end. -/
def ContinuesWith
    (previous : Option StatementKind)
    (tokens : List (Located Token))
    (statements : List (Located (Statement Float))) :
    Prop :=
  ∀ place before,
    place.ending? = some before →
      place.statement?.map (fun statement => statement.value.kind) = previous →
      read place tokens = .ok (before ++ statements)

namespace ContinuesWith

variable {previous : Option StatementKind}
  {statement : Statement Float}
  {tokens : List (Located Token)}
  {statements : List (Located (Statement Float))}

/-- The tokens of a statement are read, and then those that continue it. -/
private theorem read_tree
    (continues : ContinuesWith (some statement.kind) tokens statements) :
    read (.opened statement.kind) (statement.tree.tokens ++ tokens) =
      .ok (.unplaced statement.unplaced :: statements) := by
  have ends := statement.tree.statement?_final
  rw [PairTree.read_tokens,
    continues statement.tree.final [statement.tree.statement]
      (Place.ending?_of_statement? ends) (by rw [ends]; simp),
    statement.statement_tree]
  rfl

/-- After a comma comes a statement of the same kind. -/
theorem comma
    (continues : ContinuesWith (some statement.kind) tokens statements) :
    ContinuesWith (some statement.kind)
      (⟨.comma, Span.origin⟩ :: (statement.tree.tokens ++ tokens))
      (.unplaced statement.unplaced :: statements) := by
  intro place before ending kindIs
  obtain ⟨last, ends, sameKind⟩ := Option.map_eq_some_iff.1 kindIs
  rw [Place.ending?_of_statement? ends] at ending
  cases ending
  rw [Program.read_comma ends, sameKind, continues.read_tree]
  rfl

/-- The keyword of its kind opens a statement after any other one. -/
theorem word
    (continues : ContinuesWith (some statement.kind) tokens statements) :
    ContinuesWith previous
      (⟨.keyword statement.kind.word, Span.origin⟩ :: (statement.tree.tokens ++ tokens))
      (.unplaced statement.unplaced :: statements) := by
  intro place before ending _
  rw [Program.read_word before ending, continues.read_tree]
  rfl

end ContinuesWith

theorem StatementKind.text_word
    (kind : StatementKind) :
    kind.word.text = kind.keyword := by
  cases kind <;> rfl

namespace Canonical

/-- After a statement the canonical text goes on with a comma or a line end. -/
theorem exists_followingText_cons
    (layout : PageLayout)
    (kind : StatementKind)
    (statements : List (Located (Statement Float))) :
    ∃ mark rest,
      followingText layout (some kind) statements = mark :: rest ∧ mark ∈ [',', '\n'] := by
  cases statements with
  | nil =>
      exact ⟨'\n', [], rfl, by simp⟩
  | cons statement more =>
      unfold followingText opening
      split
      · exact ⟨',', _, rfl, by simp⟩
      · exact ⟨'\n', _, rfl, by simp⟩

/-- The canonical text of writable statements is cut into tokens that continue a program. -/
theorem exists_tokens_followingText
    (layout : PageLayout)
    (previous : Option StatementKind)
    {statements : List (Located (Statement Float))}
    (writable : ∀ statement ∈ statements, statement.value.IsWritable) :
    ∃ tokens,
      Reads (followingText layout previous statements) (words tokens) ∧
        ContinuesWith previous tokens
          (statements.map fun statement => .unplaced statement.value.unplaced) := by
  induction statements generalizing previous with
  | nil =>
      refine ⟨[], ?_, ?_⟩
      · cases previous with
        | none =>
            exact .nil
        | some kind =>
            exact Reads.nil.lineEnd
      · intro place before ending _
        rw [Program.read, ending]
        simp
  | cons statement rest inductionHypothesis =>
      obtain ⟨statementWritable, restWritable⟩ := List.forall_mem_cons.1 writable
      obtain ⟨tokens, readsRest, continues⟩ :=
        inductionHypothesis (some statement.value.kind) restWritable
      obtain ⟨mark, more, shape, isMark⟩ :=
        exists_followingText_cons layout statement.value.kind rest
      rw [shape] at readsRest
      have readsPair := readsRest.pair statementWritable isMark
      rw [← shape] at readsPair
      unfold followingText opening
      split
      · rename_i grouped
        simp only [Bool.and_eq_true, decide_eq_true_eq] at grouped
        refine ⟨_, ?_, grouped.2 ▸ continues.comma⟩
        have readsComma := (readsPair.spaces layout.indent).lineEnd.comma
        simpa using readsComma
      · refine ⟨_, ?_, continues.word⟩
        have readsWord :=
          readsPair.space.keyword statement.value.kind.word (ends_word _ (by simp))
        rw [StatementKind.text_word] at readsWord
        cases previous with
        | none =>
            simpa using readsWord
        | some kind =>
            simpa using readsWord.lineEnd

end Canonical

/-! ## Reading a source with given tokens -/

namespace Program

/-- Tokens with the same words are read as the same statements at other places. -/
theorem parse_of_reads
    {source : String}
    {tokens : List (Located Token)}
    (reads : Reads source.toList (words tokens))
    {statements : List (Located (Statement Float))}
    (accepted : read .outside tokens = .ok statements) :
    ∃ reread,
      parse source = .ok reread ∧
        Program.unplaced reread = Program.unplaced statements := by
  obtain ⟨located, tokenized, wordsAre⟩ := reads.tokenize
  obtain ⟨reread, acceptedToo, same⟩ := exists_read_of_values wordsAre accepted
  exact ⟨reread, parse_eq_ok_iff.2 ⟨located, tokenized, acceptedToo⟩, same⟩

end Program

namespace Canonical

/-- The canonical text of writable statements is read as these statements. -/
theorem exists_parse_followingText
    (layout : PageLayout)
    {statements : List (Located (Statement Float))}
    (writable : ∀ statement ∈ statements, statement.value.IsWritable) :
    ∃ reread,
      Program.parse (String.ofList (followingText layout none statements)) = .ok reread ∧
        Program.unplaced reread = Program.unplaced statements := by
  obtain ⟨tokens, reads, continues⟩ := exists_tokens_followingText layout none writable
  have accepted := continues .outside [] rfl rfl
  have textIs :
      (String.ofList (followingText layout none statements)).toList =
        followingText layout none statements :=
    String.toList_ofList
  rw [← textIs] at reads
  obtain ⟨reread, parsed, same⟩ := Program.parse_of_reads reads accepted
  refine ⟨reread, parsed, same.trans ?_⟩
  simp [Program.unplaced, Located.unplaced]

/--
A printed text parses, and the statements that are read are those that were printed: as
many, in the same order, each with the same words, names, strings and numbers. Numbers are
the same bit for bit, since `=` on `Float` is equality of the encodings.
-/
theorem parse_format
    {layout : PageLayout}
    {statements : List (Located (Statement Float))}
    {text : String}
    (printed : format layout statements = .ok text) :
    ∃ reread,
      Program.parse text = .ok reread ∧
        Program.unplaced reread = Program.unplaced statements := by
  obtain ⟨writable, rfl⟩ := format_eq_ok_iff.1 printed
  exact exists_parse_followingText layout writable

/-- A placement with a negative zero is read back with its sign. -/
theorem parse_format_negativeZero :
    ∃ statements text reread,
      statements =
          [.unplaced
            (.placement (.unplaced ⟨"gate"⟩)
              (.unplaced ⟨0.5, Float.ofBits 0x8000000000000000, 12⟩) none)] ∧
        format {} statements = .ok text ∧
        Program.parse text = .ok reread ∧
        Program.unplaced reread = Program.unplaced statements := by
  have printed :
      format {}
          [.unplaced
            (.placement (.unplaced ⟨"gate"⟩)
              (.unplaced ⟨0.5, Float.ofBits 0x8000000000000000, 12⟩) none)] =
        .ok "position gate at (0.5, -0, 12)\n" := by
    decide +kernel
  obtain ⟨reread, parsed, same⟩ := parse_format printed
  exact ⟨_, _, reread, rfl, printed, parsed, same⟩

end Canonical

end LevelScript
