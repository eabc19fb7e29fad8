import LevelScript.Proofs.Grammar.Spans
import LevelScript.Proofs.Lexeme.Joining
import LevelScript.Proofs.Text.Slices

namespace LevelScript

/-!
# Slices between tokens

What some tokens of a source in a row span is a text of its own, which is split into the same
lexemes: a lexeme that is not the last one ends where it did, and the last one ends with the
text. This holds of significant tokens too, which keep the trivia between them.
-/

/-- Items are as good without those in front of the first one that passes a filter. -/
theorem exists_suffix_of_filter
    (passes : α → Bool)
    (items : List α) :
    ∃ part,
      part <:+ items ∧
        part.filter passes = items.filter passes ∧
        part.head? = (items.filter passes).head? := by
  induction items with
  | nil =>
      exact ⟨[], List.suffix_rfl, rfl, rfl⟩
  | cons item rest inductionHypothesis =>
      by_cases passed : passes item
      · refine ⟨item :: rest, List.suffix_rfl, rfl, ?_⟩
        rw [List.filter_cons_of_pos passed, List.head?_cons, List.head?_cons]
      · obtain ⟨part, isSuffix, sameItems, sameFirst⟩ := inductionHypothesis
        rw [List.filter_cons_of_neg passed]
        exact ⟨part, isSuffix.trans (List.suffix_cons item rest), sameItems, sameFirst⟩

theorem exists_prefix_of_filter
    (passes : α → Bool)
    (items : List α) :
    ∃ part,
      part <+: items ∧
        part.filter passes = items.filter passes ∧
        part.getLast? = (items.filter passes).getLast? := by
  obtain ⟨part, isSuffix, sameItems, sameFirst⟩ := exists_suffix_of_filter passes items.reverse
  refine ⟨part.reverse, ?_, ?_, ?_⟩
  · rwa [← List.reverse_suffix, List.reverse_reverse]
  · rw [List.filter_reverse, sameItems, List.filter_reverse, List.reverse_reverse]
  · rw [List.getLast?_reverse, sameFirst, List.filter_reverse, List.head?_reverse]

theorem exists_infix_of_filter
    {passes : α → Bool}
    {items row : List α}
    (isInfix : row <:+: items.filter passes) :
    ∃ part,
      part <:+: items ∧
        part.filter passes = row ∧
        part.head? = row.head? ∧
        part.getLast? = row.getLast? := by
  obtain ⟨left, right, rowIs⟩ := isInfix
  obtain ⟨more, others, rfl, moreIs, _⟩ := List.filter_eq_append_iff.1 rowIs.symm
  obtain ⟨before, middle, rfl, _, rfl⟩ := List.filter_eq_append_iff.1 moreIs
  obtain ⟨kept, isSuffix, sameItems, sameFirst⟩ := exists_suffix_of_filter passes middle
  obtain ⟨part, isPrefix, stillSame, sameLast⟩ := exists_prefix_of_filter passes kept
  refine ⟨part, ?_, stillSame.trans sameItems, ?_, by rw [sameLast, sameItems]⟩
  · exact (isPrefix.isInfix.trans isSuffix.isInfix).trans (List.infix_append before middle others)
  · cases part with
    | nil =>
        rw [← sameItems, ← stillSame]
        rfl
    | cons first rest =>
        obtain ⟨after, rfl⟩ := isPrefix
        exact sameFirst

namespace Lexeme

open Text (byteWidth byteWidth_toList)

variable {source : String} {tokens row : List (Located Token)} {span : Span}

/-- The tokens in a row are those of the text that they span. -/
theorem exists_split_slice
    (tokenized : tokenize source = .ok tokens)
    (isInfix : row <:+: tokens)
    (spans : Spans row span) :
    ∃ shapes, Split (span.slice source).toList shapes ∧ row = Shape.located span.start shapes := by
  obtain ⟨left, right, tokensAre⟩ := isInfix
  obtain ⟨all, split, rfl⟩ := exists_split_of_tokenize tokenized
  rw [List.append_assoc] at tokensAre
  obtain ⟨earlier, others, rfl, rfl⟩ := Shape.exists_of_located_eq_append tokensAre.symm
  rw [Shape.located_append, List.append_cancel_left_eq] at tokensAre
  obtain ⟨shapes, later, rfl, rfl⟩ := Shape.exists_of_located_eq_append tokensAre.symm
  obtain ⟨before, rest, whole, splitBefore, splitRest⟩ := split.exists_of_append
  obtain ⟨text, after, rfl, splitText, _⟩ := splitRest.exists_of_append
  rw [splitBefore.flatMap_text, Nat.zero_add] at spans ⊢
  obtain ⟨first, last, isFirst, isLast, start, stop⟩ := spans
  rw [Shape.start_of_head?_located isFirst] at start
  have textStop := splitText.stop_of_getLast?_located (byteWidth before)
  rw [isLast, Option.elim_some, ← stop] at textStop
  have spanIs : span = .ofWidth (byteWidth before) (byteWidth text) := by
    cases span
    simp only [Span.ofWidth, Span.mk.injEq]
    exact ⟨start, textStop⟩
  rw [← List.append_assoc] at whole
  refine ⟨shapes, ?_, ?_⟩
  · rw [spanIs, Span.slice_ofWidth whole, String.toList_ofList]
    exact splitText
  · rw [start]

/-- What significant tokens in a row span is a source of its own, with just these significant
tokens, of which the first one is the first token of all. -/
theorem tokenize_slice
    (tokenized : tokenize source = .ok tokens)
    (isInfix : row <:+: Program.significant tokens)
    (spans : Spans row span) :
    ∃ inner,
      tokenize (span.slice source) = .ok inner ∧
        (Program.significant inner).map (Located.respan (Span.shift span.start)) = row ∧
        inner.head?.map (Located.respan (Span.shift span.start)) = row.head? := by
  obtain ⟨first, last, isFirst, isLast, start, stop⟩ := spans
  obtain ⟨part, partIsInfix, significantTokens, sameFirst, sameLast⟩ :=
    exists_infix_of_filter isInfix
  obtain ⟨shapes, split, rfl⟩ :=
    exists_split_slice tokenized partIsInfix
      ⟨first, last, sameFirst.trans isFirst, sameLast.trans isLast, start, stop⟩
  have moved := Shape.located_shift span.start 0 shapes
  rw [Nat.add_zero] at moved
  rw [moved] at significantTokens sameFirst
  refine ⟨Shape.located 0 shapes, split.tokenize_eq, ?_, ?_⟩
  · rw [← Program.significant_respan]
    exact significantTokens
  · rw [← List.head?_map]
    exact sameFirst

/-- A token covers at least one byte. -/
theorem start_lt_stop_of_tokenize
    (tokenized : tokenize source = .ok tokens)
    {token : Located Token}
    (member : token ∈ tokens) :
    token.span.start < token.span.stop := by
  obtain ⟨shape, before, after, isLexeme, _, _, span⟩ := exists_lexeme_of_tokenize tokenized member
  have hasWidth : byteWidth shape.text ≠ 0 := by
    intro noWidth
    exact Shape.text_ne_nil isLexeme.1 (Text.eq_nil_of_byteWidth noWidth)
  have width : token.span.stop = token.span.start + byteWidth shape.text := by
    rw [span]
    rfl
  omega

/-- An identifier is what its token cuts out. -/
theorem slice_of_identifier
    (tokenized : tokenize source = .ok tokens)
    {name : String}
    (member : ⟨.identifier name, span⟩ ∈ tokens) :
    span.slice source = name := by
  obtain ⟨shape, before, after, _, isIdentifier, whole, spanIs⟩ :=
    exists_lexeme_of_tokenize tokenized member
  change span = _ at spanIs
  cases shape with
  | identifier text =>
      cases isIdentifier
      rw [spanIs, Span.slice_ofWidth whole, Shape.text, String.ofList_toList]
  | _ =>
      cases isIdentifier

/-- What starts with an identifier does not start with a blank. -/
theorem Split.ends_isInlineBlank
    {characters : List Char}
    {shapes : List Shape}
    (split : Split characters shapes)
    {name : String}
    (isFirst : shapes.head?.map Shape.token = some (.identifier name)) :
    Ends isInlineBlank characters := by
  cases split with
  | nil =>
      cases isFirst
  | @cons shape rest shapes isLexeme _ _ =>
      cases shape with
      | identifier text =>
          obtain ⟨first, more, textIs, letter, _⟩ := exists_of_isIdentifier isLexeme.1
          rw [Shape.text, textIs]
          refine ends_cons _ ?_
          cases blank : isInlineBlank first with
          | false =>
              rfl
          | true =>
              rw [isInlineBlank, Bool.and_eq_true] at blank
              rw [Text.isLetter_eq_false_of_isBlank blank.1] at letter
              cases letter
      | _ =>
          cases isFirst

/-- A reserved word and a blank may be put in front of what starts with an identifier. -/
theorem tokenize_word
    (word : Keyword)
    {name : String}
    (tokenized : tokenize source = .ok tokens)
    (isFirst : tokens.head?.map Located.value = some (.identifier name)) :
    tokenize (word.text ++ " " ++ source) =
      .ok
        (⟨.keyword word, .ofWidth 0 word.text.utf8ByteSize⟩ ::
          ⟨.blank, .ofWidth word.text.utf8ByteSize 1⟩ ::
          tokens.map (Located.respan (Span.shift (word.text.utf8ByteSize + 1)))) := by
  obtain ⟨shapes, split, rfl⟩ := exists_split_of_tokenize tokenized
  rw [← List.head?_map, Shape.map_value_located, List.head?_map] at isFirst
  have noWord : Word.isCharacter ' ' = false := by
    decide
  have isBlank : isInlineBlank ' ' = true := by
    decide
  have wordIsLexeme : (Shape.keyword word).IsLexeme := by
    simp [Shape.IsLexeme, Shape.IsWellFormed, Shape.token]
  have wordStays : ¬(Shape.keyword word).CanGrow (' ' :: source.toList) :=
    (Shape.not_canGrow_iff wordIsLexeme.1).2 (ends_cons _ noWord)
  have blankIsLexeme : (Shape.blank [' ']).IsLexeme := by
    simp [Shape.IsLexeme, Shape.IsWellFormed, Shape.token, isBlank]
  have blankStays : ¬(Shape.blank [' ']).CanGrow source.toList :=
    (Shape.not_canGrow_iff blankIsLexeme.1).2 (split.ends_isInlineBlank isFirst)
  have text :
      (word.text ++ " " ++ source).toList =
        (Shape.keyword word).text ++ ((Shape.blank [' ']).text ++ source.toList) := by
    simp [String.toList_append, Shape.text]
  have joined : Split (word.text ++ " " ++ source).toList
      (.keyword word :: .blank [' '] :: shapes) := by
    rw [text]
    exact .cons wordIsLexeme wordStays (.cons blankIsLexeme blankStays split)
  have width : byteWidth (Shape.keyword word).text = word.text.utf8ByteSize :=
    byteWidth_toList word.text
  rw [joined.tokenize_eq, ← Shape.located_shift]
  simp only [Shape.located, Span.ofWidth, width, Nat.zero_add]
  rfl

end Lexeme

end LevelScript
