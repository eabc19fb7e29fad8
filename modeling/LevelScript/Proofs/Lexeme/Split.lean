import LevelScript.Proofs.Lexeme.Growth
import LevelScript.Proofs.Text.Bytes

namespace LevelScript.Lexeme

open Text (byteWidth byteWidth_append byteWidth_toList)

/-!
# Splitting a source into lexemes

A source is tokenized exactly if it is a row of lexemes, of which those with a repeating form
are as long as they can be. There is one such row at most, and the tokens are those of its
lexemes, side by side over the whole source.
-/

namespace Shape

/-- A well-formed lexeme, of which the number is finite if it is one. -/
def IsLexeme
    (shape : Shape) :
    Prop :=
  shape.IsWellFormed ∧ ∀ value, shape.token = .number value → value.isFinite = true

end Shape

/-- The characters are the texts of some lexemes in a row, none of which can grow. -/
inductive Split : List Char → List Shape → Prop where
  | nil :
      Split [] []
  | cons
      {shape : Shape}
      {rest : List Char}
      {shapes : List Shape} :
      shape.IsLexeme →
      ¬shape.CanGrow rest →
      Split rest shapes →
      Split (shape.text ++ rest) (shape :: shapes)

/-- The tokens lie side by side over a source, each of them on the text of its lexeme. -/
structure Tiles
    (source : String)
    (shapes : List Shape)
    (tokens : List (Located Token)) :
    Prop where
  /-- The tokens are those of the lexemes. -/
  values : tokens.map Located.value = shapes.map Shape.token
  /-- The first token starts where the source does. -/
  starts : ∀ token, tokens.head? = some token → token.span.start = 0
  /-- Each token starts where the one before it stops. -/
  meet : tokens.IsChain fun first second => first.span.stop = second.span.start
  /-- The last token stops where the source does. -/
  ends : Program.endOffset tokens = source.utf8ByteSize
  /-- The bytes of a span are the characters of the lexeme. -/
  slices : ∀ (index : Nat) (shape : Shape) (token : Located Token),
    shapes[index]? = some shape →
      tokens[index]? = some token →
        ∃ before after : String,
          source = before ++ String.ofList shape.text ++ after ∧
            token.span.start = before.utf8ByteSize ∧
            token.span.stop = (before ++ String.ofList shape.text).utf8ByteSize

/-! ## The token and the text of a lexeme -/

namespace Shape

/-- A number that is finite has a token, and so has every other lexeme. -/
theorem isLexeme_iff
    {shape : Shape}
    (wellFormed : shape.IsWellFormed) :
    shape.IsLexeme ↔ shape.outcome = .ok shape.token := by
  cases shape with
  | number negative whole fraction =>
      simp [IsLexeme, wellFormed, token, outcome, numberToken]
  | _ =>
      simp [IsLexeme, wellFormed, token, outcome]

/-- A number with a token is finite. -/
theorem isLexeme_of_outcome
    {shape : Shape}
    (wellFormed : shape.IsWellFormed)
    {value : Token}
    (succeeds : shape.outcome = .ok value) :
    shape.IsLexeme := by
  rw [isLexeme_iff wellFormed, token_of_outcome succeeds]
  exact succeeds

/-- The parts of a number are determined by its text. -/
theorem number_text_inj
    {negative otherNegative : Bool}
    {whole otherWhole : List Char}
    {fraction otherFraction : Option (List Char)}
    (wellFormed : (number negative whole fraction).IsWellFormed)
    (otherWellFormed : (number otherNegative otherWhole otherFraction).IsWellFormed)
    (sameText :
      (number negative whole fraction).text =
        (number otherNegative otherWhole otherFraction).text) :
    number negative whole fraction = number otherNegative otherWhole otherFraction := by
  obtain ⟨nonempty, wholeDigits, _⟩ := wellFormed
  obtain ⟨otherNonempty, otherWholeDigits, _⟩ := otherWellFormed
  have notSigned : ∀ {digits more others : List Char},
      digits ≠ [] →
        (∀ digit ∈ digits, digit.isDigit = true) →
        digits ++ more ≠ '-' :: others := by
    rintro digits more others hasDigits areDigits signed
    obtain ⟨digit, left, rfl⟩ := List.exists_cons_of_ne_nil hasDigits
    have isSign := (List.cons.inj signed).1
    exact absurd (areDigits digit (by simp)) (by simp [isSign])
  have sameSign : negative = otherNegative := by
    cases negative <;> cases otherNegative
    · rfl
    · exact (notSigned nonempty wholeDigits (by simpa [Shape.text] using sameText)).elim
    · exact (notSigned otherNonempty otherWholeDigits
        (by simpa [Shape.text] using sameText.symm)).elim
    · rfl
  subst sameSign
  have sameDigits : whole ++ pointText fraction = otherWhole ++ pointText otherFraction := by
    simpa [Shape.text] using sameText
  have ends : ∀ written : Option (List Char), Ends Char.isDigit (pointText written) := by
    intro written
    simpa using ends_digits_pointText (ends_nil (continuesFraction written))
  have sameWhole := takeWhile_run_append wholeDigits (ends fraction)
  have samePoint := dropWhile_run_append wholeDigits (ends fraction)
  rw [sameDigits, takeWhile_run_append otherWholeDigits (ends otherFraction)] at sameWhole
  rw [sameDigits, dropWhile_run_append otherWholeDigits (ends otherFraction)] at samePoint
  have sameFraction : fraction = otherFraction := by
    cases fraction <;> cases otherFraction <;> simp [pointText] at samePoint ⊢
    exact samePoint.symm
  rw [sameWhole, sameFraction]

/-- A lexeme is determined by its text and its token. -/
theorem eq_of_text_of_token
    {shape other : Shape}
    (wellFormed : shape.IsWellFormed)
    (otherWellFormed : other.IsWellFormed)
    (sameText : shape.text = other.text)
    (sameToken : shape.token = other.token) :
    shape = other := by
  cases shape with
  | number negative whole fraction =>
      cases other with
      | number otherNegative otherWhole otherFraction =>
          exact number_text_inj wellFormed otherWellFormed sameText
      | _ =>
          cases sameToken
  | string body =>
      cases other with
      | string otherBody =>
          simpa [Shape.text] using sameText
      | _ =>
          cases sameToken
  | lineComment body =>
      cases other with
      | lineComment otherBody =>
          simpa [Shape.text] using sameText
      | _ =>
          cases sameToken
  | blockComment body =>
      cases other with
      | blockComment otherBody =>
          simpa [Shape.text] using sameText
      | _ =>
          cases sameToken
  | blank run =>
      cases other with
      | blank otherRun =>
          simpa [Shape.text] using sameText
      | _ =>
          cases sameToken
  | _ =>
      cases other <;> cases sameToken
      rfl

/-- The tokens of lexemes in a row, from an offset on. -/
def located
    (offset : Nat) :
    List Shape →
    List (Located Token)
  | [] => []
  | shape :: shapes =>
      let span := Span.ofWidth offset (byteWidth shape.text)
      ⟨shape.token, span⟩ :: located span.stop shapes

theorem map_value_located
    (offset : Nat)
    (shapes : List Shape) :
    (located offset shapes).map Located.value = shapes.map token := by
  induction shapes generalizing offset with
  | nil =>
      rfl
  | cons shape shapes inductionHypothesis =>
      simp [located, inductionHypothesis]

theorem start_of_head?_located
    {offset : Nat}
    {shapes : List Shape}
    {token : Located Token}
    (isFirst : (located offset shapes).head? = some token) :
    token.span.start = offset := by
  cases shapes with
  | nil =>
      cases isFirst
  | cons shape shapes =>
      cases isFirst
      rfl

/-- The tokens of lexemes in a row meet. -/
theorem isChain_located
    (offset : Nat)
    (shapes : List Shape) :
    (located offset shapes).IsChain fun first second => first.span.stop = second.span.start := by
  induction shapes generalizing offset with
  | nil =>
      exact .nil
  | cons shape shapes inductionHypothesis =>
      rw [located, List.isChain_cons]
      refine ⟨?_, inductionHypothesis _⟩
      intro second isNext
      exact (start_of_head?_located isNext).symm

end Shape

namespace Split

open Shape

/-- The lexeme at the front of a split is cut off. -/
theorem exists_cut
    {shape : Shape}
    {rest : List Char}
    (isLexeme : shape.IsLexeme)
    (cannotGrow : ¬shape.CanGrow rest) :
    ∃ first more,
      shape.text ++ rest = first :: more ∧
        cut first more = ⟨.ok shape.token, shape.text, rest⟩ := by
  have wellFormed := isLexeme.1
  rw [← (isLexeme_iff wellFormed).1 isLexeme]
  exact Shape.exists_cut wellFormed ((not_canGrow_iff wellFormed).1 cannotGrow)

/-- The pieces of a text are the tokens of the lexemes it is split into. -/
theorem pieces_eq
    {characters : List Char}
    {shapes : List Shape}
    (split : Split characters shapes)
    (offset : Nat) :
    pieces offset characters = (located offset shapes).map (Located.map .ok) := by
  induction split generalizing offset with
  | nil =>
      rw [pieces, located, List.map_nil]
  | cons isLexeme cannotGrow _ inductionHypothesis =>
      obtain ⟨first, more, start, cutIs⟩ := exists_cut isLexeme cannotGrow
      rw [start, pieces]
      simp only [cutIs, located, inductionHypothesis]
      rfl

/-- A text that is split into lexemes is split in this way only. -/
theorem unique
    {characters : List Char}
    {shapes others : List Shape}
    (split : Split characters shapes)
    (otherSplit : Split characters others) :
    shapes = others := by
  induction split generalizing others with
  | nil =>
      generalize isEmpty : [] = characters at otherSplit
      cases otherSplit with
      | nil =>
          rfl
      | cons isLexeme _ _ =>
          exact (text_ne_nil isLexeme.1 (List.append_eq_nil_iff.1 isEmpty.symm).1).elim
  | @cons shape rest shapes isLexeme cannotGrow _ inductionHypothesis =>
      obtain ⟨first, more, start, cutIs⟩ := exists_cut isLexeme cannotGrow
      generalize sameText : shape.text ++ rest = characters at otherSplit
      cases otherSplit with
      | nil =>
          exact (text_ne_nil isLexeme.1 (List.append_eq_nil_iff.1 sameText).1).elim
      | @cons other otherRest others otherIsLexeme otherCannotGrow otherSplit =>
          obtain ⟨otherFirst, otherMore, otherStart, otherCutIs⟩ :=
            exists_cut otherIsLexeme otherCannotGrow
          obtain ⟨rfl, rfl⟩ := List.cons.inj (start.symm.trans (sameText.trans otherStart))
          obtain ⟨sameToken, sameFront, rfl⟩ := Cut.mk.inj (cutIs.symm.trans otherCutIs)
          rw [inductionHypothesis otherSplit,
            eq_of_text_of_token isLexeme.1 otherIsLexeme.1 sameFront (Except.ok.inj sameToken)]

end Split

/-- A text without faulty pieces is split into lexemes. -/
theorem exists_split
    (offset : Nat)
    (characters : List Char)
    (noFault : (pieces offset characters).filterMap fault? = []) :
    ∃ shapes, Split characters shapes := by
  fun_induction pieces offset characters with
  | case1 offset =>
      exact ⟨[], .nil⟩
  | case2 offset first rest piece span inductionHypothesis =>
      rw [List.filterMap_cons] at noFault
      cases outcome : piece.outcome with
      | error fault =>
          simp [fault?, outcome] at noFault
      | ok token =>
          have noFaultAfter : (pieces span.stop piece.rest).filterMap fault? = [] := by
            simpa [fault?, outcome] using noFault
          obtain ⟨shapes, split⟩ := inductionHypothesis noFaultAfter
          have cutIs : cut first rest = ⟨.ok token, piece.taken, piece.rest⟩ := by
            rw [← outcome]
          obtain ⟨shape, wellFormed, hasToken, text, ends⟩ := exists_shape_of_cut cutIs
          have isLexeme := Shape.isLexeme_of_outcome wellFormed hasToken
          have cannotGrow := (Shape.not_canGrow_iff wellFormed).2 ends
          have whole : shape.text ++ piece.rest = first :: rest := by
            rw [text]
            exact cut_taken_append_rest first rest
          exact ⟨shape :: shapes, whole ▸ .cons isLexeme cannotGrow split⟩

/-- The tokens of a source that is split into lexemes are theirs. -/
theorem Split.tokenize_eq
    {source : String}
    {shapes : List Shape}
    (split : Split source.toList shapes) :
    tokenize source = .ok (Shape.located 0 shapes) := by
  have noFault : ((Shape.located 0 shapes).map (Located.map .ok)).filterMap fault? = [] := by
    rw [List.filterMap_map, List.filterMap_eq_nil_iff]
    exact fun _ _ => rfl
  have allTokens :
      ((Shape.located 0 shapes).map (Located.map .ok)).filterMap token? =
        Shape.located 0 shapes := by
    rw [List.filterMap_map]
    exact List.filterMap_some
  unfold tokenize
  simp only [split.pieces_eq, noFault, allTokens]

/-- The tokens of a source are those of the lexemes it is split into. -/
theorem exists_split_of_tokenize
    {source : String}
    {tokens : List (Located Token)}
    (tokenized : tokenize source = .ok tokens) :
    ∃ shapes, Split source.toList shapes ∧ tokens = Shape.located 0 shapes := by
  have noFault : (pieces 0 source.toList).filterMap fault? = [] := by
    unfold tokenize at tokenized
    dsimp only at tokenized
    split at tokenized
    case h_1 noFault =>
      exact noFault
    case h_2 =>
      cases tokenized
  obtain ⟨shapes, split⟩ := exists_split 0 source.toList noFault
  rw [split.tokenize_eq] at tokenized
  exact ⟨shapes, split, (Except.ok.inj tokenized).symm⟩

/-- All lexemes of a split are lexemes indeed. -/
theorem Split.isLexeme_of_mem
    {characters : List Char}
    {shapes : List Shape}
    (split : Split characters shapes)
    {shape : Shape}
    (member : shape ∈ shapes) :
    shape.IsLexeme := by
  induction split with
  | nil =>
      cases member
  | cons isLexeme _ _ inductionHypothesis =>
      rcases List.mem_cons.1 member with rfl | inRest
      · exact isLexeme
      · exact inductionHypothesis inRest

/-! ## Tiling -/

/-- The last token of lexemes in a row stops where their texts do. -/
theorem Split.stop_of_getLast?_located
    {characters : List Char}
    {shapes : List Shape}
    (split : Split characters shapes)
    (offset : Nat) :
    (Shape.located offset shapes).getLast?.elim offset (fun token => token.span.stop) =
      offset + byteWidth characters := by
  induction split generalizing offset with
  | nil =>
      rfl
  | @cons shape rest shapes _ _ split inductionHypothesis =>
      have stops := inductionHypothesis (offset + byteWidth shape.text)
      rw [byteWidth_append, ← Nat.add_assoc, ← stops, Shape.located, List.getLast?_cons]
      change
        Option.elim (some (Option.getD (Shape.located (offset + _) shapes).getLast? _)) _ _ = _
      cases (Shape.located (offset + byteWidth shape.text) shapes).getLast? <;> rfl

/-- Each token lies on the text of its lexeme. -/
theorem Split.exists_slice
    {characters : List Char}
    {shapes : List Shape}
    (split : Split characters shapes)
    (offset : Nat)
    {index : Nat}
    {shape : Shape}
    {token : Located Token}
    (isShape : shapes[index]? = some shape)
    (isToken : (Shape.located offset shapes)[index]? = some token) :
    ∃ before after,
      characters = before ++ shape.text ++ after ∧
        token.span = Span.ofWidth (offset + byteWidth before) (byteWidth shape.text) := by
  induction split generalizing offset index with
  | nil =>
      cases isShape
  | @cons front rest shapes _ _ _ inductionHypothesis =>
      cases index with
      | zero =>
          cases isShape
          cases isToken
          exact ⟨[], rest, rfl, rfl⟩
      | succ index =>
          obtain ⟨before, after, rfl, span⟩ := inductionHypothesis _ isShape isToken
          refine ⟨front.text ++ before, after, by simp, span.trans ?_⟩
          simp [Span.ofWidth, Nat.add_assoc]

/-- Each token of a source lies on the text of a lexeme. -/
theorem exists_lexeme_of_tokenize
    {source : String}
    {tokens : List (Located Token)}
    (tokenized : tokenize source = .ok tokens)
    {token : Located Token}
    (member : token ∈ tokens) :
    ∃ (shape : Shape) (before after : List Char),
      shape.IsLexeme ∧
        shape.token = token.value ∧
        source.toList = before ++ shape.text ++ after ∧
        token.span = Span.ofWidth (byteWidth before) (byteWidth shape.text) := by
  obtain ⟨shapes, split, rfl⟩ := exists_split_of_tokenize tokenized
  obtain ⟨index, isToken⟩ := List.mem_iff_getElem?.1 member
  have values := congrArg (·[index]?) (Shape.map_value_located 0 shapes)
  simp only [List.getElem?_map, isToken, Option.map_some] at values
  obtain ⟨shape, isShape, sameToken⟩ := Option.map_eq_some_iff.1 values.symm
  obtain ⟨before, after, whole, span⟩ := split.exists_slice 0 isShape isToken
  rw [Nat.zero_add] at span
  have isLexeme := split.isLexeme_of_mem (List.mem_of_getElem? isShape)
  exact ⟨shape, before, after, isLexeme, sameToken, whole, span⟩

/-- The tokens of a source lie side by side over it. -/
theorem Split.tiles
    {source : String}
    {shapes : List Shape}
    (split : Split source.toList shapes) :
    Tiles source shapes (Shape.located 0 shapes) where
  values := Shape.map_value_located 0 shapes
  starts _ := Shape.start_of_head?_located
  meet := Shape.isChain_located 0 shapes
  ends := by
    rw [Program.endOffset, split.stop_of_getLast?_located, Nat.zero_add, byteWidth_toList]
  slices index shape token isShape isToken := by
    obtain ⟨before, after, whole, span⟩ := split.exists_slice 0 isShape isToken
    refine ⟨String.ofList before, String.ofList after, ?_, ?_, ?_⟩
    · rw [← String.ofList_append, ← String.ofList_append, ← whole, String.ofList_toList]
    · simp [span, Span.ofWidth, Text.utf8ByteSize_ofList]
    · rw [← String.ofList_append]
      simp [span, Span.ofWidth, Text.utf8ByteSize_ofList]

/-- A source is tokenized exactly if it is split into lexemes that cannot grow; there is one
such split at most, and the tokens of the source are its lexemes, side by side. -/
theorem tokenize_isLongestSplit
    (source : String) :
    ((∃ tokens, tokenize source = .ok tokens) ↔ ∃ shapes, Split source.toList shapes) ∧
      (∀ shapes others,
        Split source.toList shapes → Split source.toList others → shapes = others) ∧
      ∀ tokens shapes,
        tokenize source = .ok tokens →
          Split source.toList shapes →
          Tiles source shapes tokens := by
  refine ⟨⟨?splits, ?tokenizes⟩, fun _ _ => Split.unique, ?tiles⟩
  case splits =>
    rintro ⟨tokens, tokenized⟩
    obtain ⟨shapes, split, _⟩ := exists_split_of_tokenize tokenized
    exact ⟨shapes, split⟩
  case tokenizes =>
    rintro ⟨shapes, split⟩
    exact ⟨_, split.tokenize_eq⟩
  case tiles =>
    intro tokens shapes tokenized split
    rw [split.tokenize_eq] at tokenized
    cases tokenized
    exact split.tiles

/-- A number takes a point although no digit follows, and a word may follow at once. -/
theorem tokenize_isLongestSplit_point :
    ∃ tokens,
      tokenize "-5.to" = .ok tokens ∧
        Tiles "-5.to" [.number true ['5'] (some []), .keyword .toWord] tokens := by
  have numberWellFormed : (Shape.number true ['5'] (some [])).IsWellFormed :=
    ⟨by simp, by simp, by simp⟩
  have numberFinite : (Decimal.ofDigits true ['5'] []).isFinite = true := by
    decide +kernel
  have numberIsLexeme : (Shape.number true ['5'] (some [])).IsLexeme := by
    simp [Shape.IsLexeme, Shape.token, numberWellFormed, numberFinite]
  have numberEnds : Ends (Shape.number true ['5'] (some [])).goesOn ['t', 'o'] :=
    ends_cons ['o'] (by decide)
  have numberStays := (Shape.not_canGrow_iff numberWellFormed).2 numberEnds
  have wordIsLexeme : (Shape.keyword .toWord).IsLexeme := by
    simp [Shape.IsLexeme, Shape.IsWellFormed, Shape.token]
  have wordStays : ¬(Shape.keyword .toWord).CanGrow [] :=
    (Shape.not_canGrow_iff wordIsLexeme.1).2 (ends_nil _)
  have split : Split "-5.to".toList [.number true ['5'] (some []), .keyword .toWord] :=
    .cons numberIsLexeme numberStays (.cons wordIsLexeme wordStays .nil)
  obtain ⟨tokens, succeeds⟩ := (tokenize_isLongestSplit "-5.to").1.2 ⟨_, split⟩
  exact ⟨tokens, succeeds, (tokenize_isLongestSplit "-5.to").2.2 tokens _ succeeds split⟩

end LevelScript.Lexeme
