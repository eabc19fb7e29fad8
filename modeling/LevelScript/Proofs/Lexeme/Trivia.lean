import LevelScript.Proofs.Lexeme.Joining

namespace LevelScript.Lexeme

open Text (byteWidth byteWidth_append byteWidth_toList)

/-!
# Trivia between lexemes

White space and comments may be put in between any two lexemes of a source. They start with
characters that go on with no other lexeme than white space or a line comment, and unless they
end in a line comment they do not go on with what follows. White space may grow together with
the white space around it, which changes tokens but none that has a meaning.
-/

/-- The last token is a line comment, so whatever follows on its line belongs to it. -/
def EndsInLineComment
    (tokens : List Token) :
    Prop :=
  ∃ comment, tokens.getLast? = some (.lineComment comment)

namespace Shape

/-- The tokens of lexemes that carry meaning. -/
def meaning
    (shapes : List Shape) :
    List Token :=
  (shapes.map token).filter fun token => !token.isTrivia

@[simp] theorem meaning_nil :
    meaning [] = [] :=
  rfl

theorem meaning_append
    (shapes others : List Shape) :
    meaning (shapes ++ others) = meaning shapes ++ meaning others := by
  simp [meaning]

/-- Trivia have no meaning. -/
theorem meaning_eq_nil
    {shapes : List Shape}
    (allTrivia : ∀ shape ∈ shapes, shape.token.isTrivia = true) :
    meaning shapes = [] := by
  simpa [meaning] using allTrivia

/-- The significant tokens of lexemes are what they mean. -/
theorem map_value_significant_located
    (offset : Nat)
    (shapes : List Shape) :
    (Program.significant (located offset shapes)).map Located.value = meaning shapes := by
  rw [meaning, ← map_value_located offset, List.filter_map]
  rfl

/-- Only white space and line comments go on with white space or a slash. -/
theorem goesOn_eq_false
    {shape : Shape}
    (notBlank : shape.token ≠ .blank)
    (noComment : ∀ comment, shape.token ≠ .lineComment comment)
    {character : Char}
    (opens : character = '/' ∨ Text.isBlank character = true) :
    shape.goesOn character = false := by
  have noWord : Word.isCharacter character = false := by
    rcases opens with rfl | blank
    · decide
    · simp [Word.isCharacter, Text.isLetter_eq_false_of_isBlank blank,
        Text.isNumeral_eq_false_of_isBlank blank]
  cases shape with
  | keyword word =>
      exact noWord
  | identifier name =>
      exact noWord
  | number negative whole fraction =>
      rcases opens with rfl | blank
      · simp [goesOn, continuesFraction]
      · have noPoint : character ≠ '.' := by
          rintro rfl
          exact absurd blank (by decide)
        simp [goesOn, continuesFraction, noPoint, Text.isDigit_eq_false_of_isBlank blank]
  | lineComment body =>
      exact (noComment _ rfl).elim
  | blank run =>
      exact (notBlank rfl).elim
  | _ =>
      rfl

/-- Trivia start with white space or a slash. -/
theorem exists_of_isTrivia
    {shape : Shape}
    (wellFormed : shape.IsWellFormed)
    (isTrivia : shape.token.isTrivia = true) :
    ∃ first more,
      shape.text = first :: more ∧ (first = '/' ∨ Text.isBlank first = true) := by
  cases shape with
  | lineComment body =>
      exact ⟨'/', '/' :: body, rfl, Or.inl rfl⟩
  | blockComment body =>
      exact ⟨'/', _, rfl, Or.inl rfl⟩
  | lineEnd =>
      exact ⟨'\n', [], rfl, Or.inr (by decide)⟩
  | blank run =>
      obtain ⟨nonempty, blanks⟩ := wellFormed
      obtain ⟨first, more, rfl⟩ := List.exists_cons_of_ne_nil nonempty
      have isBlank := blanks first (by simp)
      rw [isInlineBlank, Bool.and_eq_true] at isBlank
      exact ⟨first, more, rfl, Or.inr isBlank.1⟩
  | _ =>
      cases isTrivia

end Shape

/-! ## Reading a text in front of another one -/

/-- A lexeme is read where it ends, and counts if it is significant. -/
theorem Reads.shape
    {shape : Shape}
    {rest : List Char}
    {tokens : List Token}
    (isLexeme : shape.IsLexeme)
    (ends : Ends shape.goesOn rest)
    (reads : Reads rest tokens) :
    Reads (shape.text ++ rest) (Shape.meaning [shape] ++ tokens) := by
  obtain ⟨first, more, text, cutIs⟩ :=
    Split.exists_cut isLexeme ((Shape.not_canGrow_iff isLexeme.1).2 ends)
  rw [text]
  cases isTrivia : shape.token.isTrivia with
  | true =>
      simpa [Shape.meaning, isTrivia] using Reads.trivia cutIs isTrivia reads
  | false =>
      simpa [Shape.meaning, isTrivia] using Reads.significant cutIs isTrivia reads

namespace Split

variable {first second : List Char} {shapes : List Shape}

/-- A text that is split is read in front of another one. Its last lexeme must end there, but
white space may also go on, since longer white space means nothing either. -/
theorem reads_append
    {tokens : List Token}
    (split : Split first shapes)
    (ends : ∀ last,
      shapes.getLast? = some last → last.token ≠ .blank → Ends last.goesOn second)
    (reads : Reads second tokens) :
    Reads (first ++ second) (Shape.meaning shapes ++ tokens) := by
  induction split with
  | nil =>
      exact reads
  | @cons shape rest shapes isLexeme cannotGrow split inductionHypothesis =>
      have readsRest : Reads (rest ++ second) (Shape.meaning shapes ++ tokens) := by
        refine inductionHypothesis fun last isLast => ends last ?_
        simp [List.getLast?_cons, isLast]
      rw [List.append_assoc, ← List.singleton_append, Shape.meaning_append, List.append_assoc]
      by_cases isBlank : shape.token = .blank
      · have noMeaning : Shape.meaning [shape] = [] := by
          simp [Shape.meaning, isBlank, Token.isTrivia]
        cases shape with
        | blank run =>
            rw [noMeaning]
            exact readsRest.inlineBlanks isLexeme.1.2
        | _ =>
            cases isBlank
      · have endsRest := (Shape.not_canGrow_iff isLexeme.1).1 cannotGrow
        refine .shape isLexeme (ends_append endsRest fun isEmpty => ?_) readsRest
        rw [← split.eq_nil_iff] at isEmpty
        exact ends shape (by simp [isEmpty]) isBlank

/-- A text that is split is read. -/
theorem reads
    (split : Split first shapes) :
    Reads first (Shape.meaning shapes) := by
  simpa using split.reads_append (fun _ _ _ _ isFirst => by cases isFirst) .nil

end Split

/-- Trivia put in between two parts of a text change nothing of what it means. -/
theorem reads_insert
    {before text after : List Char}
    {left trivia right : List Shape}
    (whole : Split (before ++ after) (left ++ right))
    (split : Split before left)
    (splitAfter : Split after right)
    (splitText : Split text trivia)
    (notInComment : ¬EndsInLineComment (left.map Shape.token))
    (allTrivia : ∀ shape ∈ trivia, shape.token.isTrivia = true)
    (closed : ¬EndsInLineComment (trivia.map Shape.token)) :
    Reads (before ++ (text ++ after)) (Shape.meaning (left ++ right)) := by
  have lastIs : ∀ {shapes : List Shape} {last : Shape},
      ¬EndsInLineComment (shapes.map Shape.token) →
        shapes.getLast? = some last →
        ∀ comment, last.token ≠ .lineComment comment := by
    intro shapes last noComment isLast comment isComment
    exact noComment ⟨comment, by simp [isLast, isComment]⟩
  cases splitText with
  | nil =>
      exact whole.reads
  | @cons opening more others isLexeme cannotGrow splitMore =>
      have splitText := Split.cons isLexeme cannotGrow splitMore
      obtain ⟨first, rest, openingText, opens⟩ :=
        Shape.exists_of_isTrivia isLexeme.1 (allTrivia opening (by simp))
      have readsText : Reads (opening.text ++ more ++ after) (Shape.meaning right) := by
        have reads := splitText.reads_append ?ends splitAfter.reads
        case ends =>
          intro last isLast notBlank character _
          have isTrivia := allTrivia last (List.mem_of_getLast? isLast)
          cases last with
          | lineComment body =>
              exact (lastIs closed isLast _ rfl).elim
          | blank run =>
              exact (notBlank rfl).elim
          | blockComment body =>
              rfl
          | lineEnd =>
              rfl
          | _ =>
              cases isTrivia
        rwa [Shape.meaning_eq_nil allTrivia] at reads
      rw [Shape.meaning_append]
      refine split.reads_append ?_ readsText
      intro last isLast notBlank
      rw [openingText]
      exact ends_cons _ (Shape.goesOn_eq_false notBlank (lastIs notInComment isLast) opens)

/-! ## Sources -/

/-- A source is divided where some of its tokens stop, and both parts are split as before. -/
theorem exists_split_of_boundary
    {before after : String}
    {left right : List (Located Token)}
    (tokenized : tokenize (before ++ after) = .ok (left ++ right))
    (boundary : Program.endOffset left = before.utf8ByteSize) :
    ∃ shapes others,
      Split (before.toList ++ after.toList) (shapes ++ others) ∧
        Split before.toList shapes ∧
        Split after.toList others ∧
        left.map Located.value = shapes.map Shape.token ∧
        (Program.significant (left ++ right)).map Located.value =
          Shape.meaning (shapes ++ others) := by
  obtain ⟨all, split, tokensAre⟩ := exists_split_of_tokenize tokenized
  obtain ⟨shapes, others, rfl, rfl⟩ := Shape.exists_of_located_eq_append tokensAre.symm
  rw [String.toList_append] at split
  obtain ⟨first, second, divided, splitFirst, splitSecond⟩ := split.exists_of_append
  have width : byteWidth before.toList = byteWidth first := by
    rw [byteWidth_toList, ← boundary, Program.endOffset,
      splitFirst.stop_of_getLast?_located 0, Nat.zero_add]
  obtain ⟨rfl, rfl⟩ := Text.append_inj_of_byteWidth divided width
  refine
    ⟨shapes, others, split, splitFirst, splitSecond, Shape.map_value_located 0 shapes, ?_⟩
  rw [tokensAre, Shape.map_value_significant_located]

/-- Trivia put in between two tokens of a source leave the significant tokens as they are. -/
theorem exists_tokenize_insert
    {before text after : String}
    {left trivia right : List (Located Token)}
    (tokenized : tokenize (before ++ after) = .ok (left ++ right))
    (boundary : Program.endOffset left = before.utf8ByteSize)
    (notInComment : ¬EndsInLineComment (left.map Located.value))
    (isText : tokenize text = .ok trivia)
    (allTrivia : ∀ token ∈ trivia, token.value.isTrivia = true)
    (closed : ¬EndsInLineComment (trivia.map Located.value)) :
    ∃ tokens,
      tokenize (before ++ text ++ after) = .ok tokens ∧
        (Program.significant tokens).map Located.value =
          (Program.significant (left ++ right)).map Located.value := by
  obtain ⟨shapes, others, whole, splitBefore, splitAfter, leftTokens, meaning⟩ :=
    exists_split_of_boundary tokenized boundary
  obtain ⟨blanks, splitText, rfl⟩ := exists_split_of_tokenize isText
  rw [leftTokens] at notInComment
  rw [Shape.map_value_located] at closed
  have blanksTrivia : ∀ shape ∈ blanks, shape.token.isTrivia = true := by
    intro shape member
    have isToken : shape.token ∈ (Shape.located 0 blanks).map Located.value := by
      rw [Shape.map_value_located]
      exact List.mem_map_of_mem member
    obtain ⟨token, isIn, sameToken⟩ := List.mem_map.1 isToken
    rw [← sameToken]
    exact allTrivia token isIn
  have reads :=
    reads_insert whole splitBefore splitAfter splitText notInComment blanksTrivia closed
  rw [← List.append_assoc, ← String.toList_append, ← String.toList_append] at reads
  obtain ⟨tokens, tokenizedToo, sameTokens⟩ := reads.tokenize
  exact ⟨tokens, tokenizedToo, sameTokens.trans meaning.symm⟩

end LevelScript.Lexeme
