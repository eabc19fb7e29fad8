import LevelScript.Proofs.Canonical.Writable
import LevelScript.Proofs.Grammar.Completeness
import LevelScript.Proofs.Grammar.Respan

namespace LevelScript

open Lexeme (Ends Reads ends_cons_of_class)

/-!
# Reading back the canonical form

The text of a writable statement is cut into the tokens of a derivation of this statement.
Statement by statement the tokens are read from the place where the one before has ended, so
the whole text is read as the statements that were printed.
-/

/-! ## Derivations of what was not read from any source -/

/-- The derivation of a vector. -/
def Vec3.tree
    (vector : Vec3 Float) :
    VectorTree where
  opening := Span.origin
  x := .unplaced vector.x
  firstComma := Span.origin
  y := .unplaced vector.y
  secondComma := Span.origin
  z := .unplaced vector.z
  closing := Span.origin

/-- The derivation of a literal. -/
def Literal.tree :
    Literal Float →
    LiteralTree
  | .string text => .string (.unplaced text)
  | .number value => .number (.unplaced value)
  | .vector value => .vector value.tree

theorem Literal.value_tree
    (literal : Literal Float) :
    literal.tree.value = .unplaced literal := by
  cases literal <;> rfl

/-- The derivation of the arguments of a declaration. -/
def Statement.argumentsTree :
    List (Located (Literal Float)) →
    Option (Separated LiteralTree)
  | [] => none
  | first :: rest =>
      some ⟨first.value.tree, rest.map fun argument => (Span.origin, argument.value.tree)⟩

theorem Statement.argumentValues_argumentsTree
    (arguments : List (Located (Literal Float))) :
    PairTree.argumentValues (argumentsTree arguments) =
      arguments.map fun argument => .unplaced argument.value := by
  cases arguments with
  | nil =>
      rfl
  | cons first rest =>
      simp [argumentsTree, PairTree.argumentValues, Separated.items, Literal.value_tree,
        Function.comp_def]

/-- The derivation of a statement. -/
def Statement.tree :
    (statement : Statement Float) →
    PairTree statement.kind
  | .abbreviation short className =>
      .abbreviation (.unplaced short.value) Span.origin className.value.tree
  | .declaration name className arguments =>
      .declaration (.unplaced name.value) Span.origin className.value.tree Span.origin
        (argumentsTree arguments) Span.origin
  | .placement name position relativeTo =>
      .placement (.unplaced name.value) Span.origin position.value.tree
        (relativeTo.map fun origin => (Span.origin, .unplaced origin.value))
  | .connection moved movedConnector base baseConnector =>
      .connection (.unplaced moved.value) Span.origin (.unplaced movedConnector.value)
        Span.origin (.unplaced base.value) Span.origin (.unplaced baseConnector.value)

/-- The statement is the one that is derived. -/
theorem Statement.statement_tree
    (statement : Statement Float) :
    statement.tree.statement = .unplaced statement.unplaced := by
  cases statement with
  | abbreviation short className =>
      simp only [tree, PairTree.statement, Name.joined_tree]
      rfl
  | declaration name className arguments =>
      simp only [tree, PairTree.statement, Name.joined_tree, argumentValues_argumentsTree]
      rfl
  | placement name position relativeTo =>
      cases relativeTo <;> rfl
  | connection =>
      rfl

/-! ## The tokens of a statement's text -/

/-- The tokens without their places. -/
def words
    (tokens : List (Located Token)) :
    List Token :=
  tokens.map Located.value

@[simp] theorem words_append
    (first second : List (Located Token)) :
    words (first ++ second) = words first ++ words second :=
  List.map_append

@[simp] theorem words_cons
    (first : Located Token)
    (rest : List (Located Token)) :
    words (first :: rest) = first.value :: words rest :=
  rfl

@[simp] theorem words_nil :
    words [] = [] :=
  rfl

theorem ends_word
    {mark : Char}
    (rest : List Char)
    (isMark : mark ∈ [' ', '.', ',', '(', ')', '\n']) :
    Ends Word.isCharacter (mark :: rest) := by
  have noCharacter : [' ', '.', ',', '(', ')', '\n'].any Word.isCharacter = false := by
    decide
  exact ends_cons_of_class noCharacter isMark rest

namespace Lexeme.Reads

variable {rest : List Char} {tokens : List Token}

private theorem segments
    {more : List String}
    (identifiers : ∀ segment ∈ more, Word.isIdentifier segment = true)
    (ends : Ends Word.isCharacter rest)
    (reads : Reads rest tokens) :
    Ends Word.isCharacter
        ((more.map String.toList).flatMap (Name.separator :: ·) ++ rest) ∧
      Reads ((more.map String.toList).flatMap (Name.separator :: ·) ++ rest)
        (words (Separated.restTokens .dot DottedTree.segmentTokens
          (more.map fun segment => (Span.origin, .unplaced ⟨segment⟩))) ++ tokens) := by
  induction more with
  | nil =>
      exact ⟨ends, reads⟩
  | cons segment more inductionHypothesis =>
      obtain ⟨endsFurther, readsFurther⟩ :=
        inductionHypothesis fun other member =>
          identifiers other (List.mem_cons_of_mem segment member)
      refine ⟨ends_word _ (by simp [Name.separator]), ?_⟩
      have readsSegment := readsFurther.identifier (identifiers segment (by simp)) endsFurther
      rw [← List.append_assoc] at readsSegment
      exact readsSegment.dot

/-- A dotted name is read where it ends. -/
theorem path
    {name : Name}
    (isPath : name.IsPath)
    (ends : Ends Word.isCharacter rest)
    (reads : Reads rest tokens) :
    Reads (name.text.toList ++ rest) (words name.tree.tokens ++ tokens) := by
  obtain ⟨first, more, segmentsAre, treeIs, text⟩ := name.exists_segments
  have identifiers := List.all_eq_true.1 isPath
  rw [segmentsAre] at identifiers
  obtain ⟨endsFurther, readsFurther⟩ :=
    segments (fun segment member => identifiers segment (List.mem_cons_of_mem first member))
      ends reads
  have readsFirst := readsFurther.identifier (identifiers first (by simp)) endsFurther
  rw [treeIs, text, Name.joinSegments, List.append_assoc]
  exact readsFirst

/-- A number is read in front of a comma or a closing parenthesis. -/
private theorem component
    {value : Float}
    (finite : value.isFinite = true)
    {mark : Char}
    (isMark : mark ∈ [',', ')'])
    (reads : Reads (mark :: rest) tokens) :
    Reads (Decimal.Layout.plain.characters value ++ mark :: rest)
      (.number value :: tokens) := by
  have noDigit : [',', ')'].any Lexeme.continuesNumber = false := by
    decide
  exact reads.number finite (ends_cons_of_class noDigit isMark rest)

theorem vector
    {value : Vec3 Float}
    (finite : value.IsFinite)
    (reads : Reads rest tokens) :
    Reads (Canonical.vectorText value ++ rest) (words value.tree.tokens ++ tokens) := by
  obtain ⟨finiteX, finiteY, finiteZ⟩ := finite
  have readsZ := reads.rightParenthesis.component finiteZ (by simp)
  have readsY := readsZ.space.comma.component finiteY (by simp)
  have readsX := readsY.space.comma.component finiteX (by simp)
  rw [Canonical.vectorText]
  simp only [List.cons_append, List.append_assoc, List.nil_append]
  exact readsX.leftParenthesis

/-- A writable literal is read in front of a comma or a closing parenthesis. -/
theorem literal
    {value : Literal Float}
    (writable : value.IsWritable)
    {mark : Char}
    (isMark : mark ∈ [',', ')'])
    (reads : Reads (mark :: rest) tokens) :
    Reads (Canonical.literalCharacters value ++ mark :: rest)
      (words value.tree.tokens ++ tokens) := by
  cases value with
  | string text =>
      rw [Canonical.literalCharacters]
      simp only [List.cons_append, List.append_assoc, List.nil_append]
      exact reads.string writable
  | number value =>
      exact reads.component writable isMark
  | vector value =>
      exact reads.vector writable

/-- Further writable arguments are read up to the closing parenthesis. -/
private theorem furtherArguments
    {literals : List (Located (Literal Float))}
    (writable : ∀ argument ∈ literals, argument.value.IsWritable)
    (reads : Reads rest tokens) :
    ∃ mark more,
      Canonical.furtherArguments literals ++ ')' :: rest = mark :: more ∧
        mark ∈ [',', ')'] ∧
        Reads (mark :: more)
          (words (Separated.restTokens .comma LiteralTree.tokens
              (literals.map fun argument => (Span.origin, argument.value.tree))) ++
            .rightParenthesis :: tokens) := by
  induction literals with
  | nil =>
      exact ⟨')', rest, rfl, by simp, reads.rightParenthesis⟩
  | cons first others inductionHypothesis =>
      obtain ⟨firstWritable, othersWritable⟩ := List.forall_mem_cons.1 writable
      obtain ⟨mark, more, shape, isMark, readsOthers⟩ := inductionHypothesis othersWritable
      refine
        ⟨',', ' ' :: (Canonical.literalCharacters first.value ++ mark :: more), ?_, by simp, ?_⟩
      · rw [← shape]
        simp [Canonical.furtherArguments]
      · rw [List.map_cons, Separated.restTokens_cons, words_cons, words_append,
          List.cons_append, List.append_assoc]
        exact (readsOthers.literal firstWritable isMark).space.comma

/-- Writable arguments are read up to the closing parenthesis. -/
theorem arguments
    {literals : List (Located (Literal Float))}
    (writable : ∀ argument ∈ literals, argument.value.IsWritable)
    (reads : Reads rest tokens) :
    Reads (Canonical.argumentsText literals ++ ')' :: rest)
      (words (PairTree.argumentTokens (Statement.argumentsTree literals)) ++
        .rightParenthesis :: tokens) := by
  cases literals with
  | nil =>
      exact reads.rightParenthesis
  | cons first others =>
      obtain ⟨firstWritable, othersWritable⟩ := List.forall_mem_cons.1 writable
      obtain ⟨mark, more, shape, isMark, readsOthers⟩ :=
        reads.furtherArguments othersWritable
      rw [Canonical.argumentsText, List.append_assoc, shape, Statement.argumentsTree,
        PairTree.argumentTokens, Separated.tokens, words_append, List.append_assoc]
      exact readsOthers.literal firstWritable isMark

private theorem plain
    {name : Name}
    (isIdentifier : name.IsIdentifier)
    {mark : Char}
    (isMark : mark ∈ [' ', '.', ',', '(', ')', '\n'])
    (reads : Reads (mark :: rest) tokens) :
    Reads (name.text.toList ++ mark :: rest) (.identifier name.text :: tokens) :=
  reads.identifier isIdentifier (ends_word rest isMark)

private theorem spaced
    (word : Keyword)
    (reads : Reads rest tokens) :
    Reads (Canonical.spacedWord word ++ rest) (.keyword word :: tokens) := by
  rw [Canonical.spacedWord, List.cons_append, List.append_assoc]
  exact (reads.space.keyword word (ends_word rest (by simp))).space

/-- A writable statement is read in front of a comma or a line end. -/
theorem pair
    {statement : Statement Float}
    (writable : statement.IsWritable)
    {mark : Char}
    (isMark : mark ∈ [',', '\n'])
    (reads : Reads (mark :: rest) tokens) :
    Reads (Canonical.pairText statement ++ mark :: rest)
      (words statement.tree.tokens ++ tokens) := by
  have ends : Ends Word.isCharacter (mark :: rest) := by
    rcases List.mem_pair.1 isMark with rfl | rfl
    · exact ends_word rest (by simp)
    · exact ends_word rest (by simp)
  cases statement with
  | abbreviation short className =>
      obtain ⟨shortIs, classIs⟩ := writable
      rw [Canonical.pairText]
      simp only [List.append_assoc]
      exact ((reads.path classIs ends).spaced .asWord).plain shortIs (by simp)
  | declaration name className literals =>
      obtain ⟨literalsAre, nameIs, classIs⟩ := writable
      have readsArguments := (reads.arguments literalsAre).leftParenthesis
      have readsClass := readsArguments.path classIs (ends_word _ (by simp))
      have readsName := (readsClass.spaced .beWord).plain nameIs (by simp)
      change
        Reads _
          (words (_ :: _ :: (className.value.tree.tokens ++ _ ::
            (PairTree.argumentTokens (Statement.argumentsTree literals) ++ [_]))) ++ tokens)
      rw [Canonical.pairText]
      simp only [List.append_assoc, List.cons_append, List.nil_append, words_cons, words_append,
        words_nil]
      exact readsName
  | placement name position relativeTo =>
      obtain ⟨nameIs, finite, originIs⟩ := writable
      have readsOrigin :
          Reads (Canonical.originText relativeTo ++ mark :: rest)
            (words (PairTree.originTokens
              (relativeTo.map fun origin => (Span.origin, .unplaced origin.value))) ++
              tokens) := by
        cases relativeTo with
        | none =>
            exact reads
        | some origin =>
            rw [Canonical.originText, List.append_assoc]
            exact (reads.identifier (originIs origin rfl) ends).spaced .fromWord
      have readsName :=
        ((readsOrigin.vector finite).spaced .atWord).plain nameIs (by simp)
      change
        Reads _
          (words (_ :: _ :: (position.value.tree.tokens ++ PairTree.originTokens
            (relativeTo.map fun origin => (Span.origin, .unplaced origin.value)))) ++ tokens)
      rw [Canonical.pairText]
      simp only [List.append_assoc, List.cons_append, words_cons, words_append]
      exact readsName
  | connection moved movedConnector base baseConnector =>
      obtain ⟨movedIs, movedConnectorIs, baseIs, baseConnectorIs⟩ := writable
      have readsBase := (reads.identifier baseConnectorIs ends).dot.plain baseIs (by simp)
      have readsMoved := (readsBase.spaced .toWord).plain movedConnectorIs (by simp)
      rw [Canonical.pairText]
      simp only [List.append_assoc, List.cons_append, List.nil_append]
      exact readsMoved.dot.plain movedIs (by simp)

end Lexeme.Reads

end LevelScript
