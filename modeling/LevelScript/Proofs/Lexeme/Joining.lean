import LevelScript.Proofs.Grammar.Respan
import LevelScript.Proofs.Lexeme.Split

namespace LevelScript.Lexeme

open Text (byteWidth byteWidth_append byteWidth_toList)

/-!
# Texts in a row

Two texts that are split into lexemes are split side by side, unless the last lexeme of the
first one goes on into the second one. Conversely a text may be divided between any two of
its lexemes. A line feed goes on with no lexeme, so texts on lines of their own never meet.
-/

/-- A text ends a lexeme if its start does, or if it has none and the rest does. -/
theorem ends_append
    {goesOn : Char → Bool}
    {first second : List Char}
    (ends : Ends goesOn first)
    (endsSecond : first = [] → Ends goesOn second) :
    Ends goesOn (first ++ second) := by
  cases first with
  | nil =>
      exact endsSecond rfl
  | cons character more =>
      exact ends_cons (more ++ second) (ends character rfl)

/-- The start of a text that ends a lexeme ends it too. -/
theorem ends_of_append
    {goesOn : Char → Bool}
    {first second : List Char}
    (ends : Ends goesOn (first ++ second)) :
    Ends goesOn first := by
  cases first with
  | nil =>
      intro character isFirst
      cases isFirst
  | cons character more =>
      exact ends_cons more (ends character rfl)

/-! ## Splits side by side -/

namespace Split

variable {first second : List Char} {shapes others : List Shape}

/-- The lexemes of a text are all of it. -/
theorem flatMap_text
    (split : Split first shapes) :
    shapes.flatMap Shape.text = first := by
  induction split with
  | nil =>
      rfl
  | cons _ _ _ inductionHypothesis =>
      rw [List.flatMap_cons, inductionHypothesis]

/-- Only the empty text has no lexemes. -/
theorem eq_nil_iff
    (split : Split first shapes) :
    shapes = [] ↔ first = [] := by
  cases split with
  | nil =>
      simp
  | cons isLexeme _ _ =>
      simp [Shape.text_ne_nil isLexeme.1]

/-- Two texts are split side by side if the last lexeme of the first one stays as it is. -/
theorem append
    (split : Split first shapes)
    (otherSplit : Split second others)
    (stays : ∀ last, shapes.getLast? = some last → ¬last.CanGrow second) :
    Split (first ++ second) (shapes ++ others) := by
  induction split with
  | nil =>
      exact otherSplit
  | @cons shape rest shapes isLexeme cannotGrow split inductionHypothesis =>
      rw [List.append_assoc, List.cons_append]
      have ends := (Shape.not_canGrow_iff isLexeme.1).1 cannotGrow
      refine .cons isLexeme ((Shape.not_canGrow_iff isLexeme.1).2 ?_) (inductionHypothesis ?_)
      · refine ends_append ends fun isEmpty => ?_
        rw [← split.eq_nil_iff] at isEmpty
        exact (Shape.not_canGrow_iff isLexeme.1).1 (stays shape (by simp [isEmpty]))
      · intro last isLast
        exact stays last (by simp [List.getLast?_cons, isLast])

/-- A text is divided between two of its lexemes, and both parts are split as before. -/
theorem exists_of_append
    {characters : List Char}
    (split : Split characters (shapes ++ others)) :
    ∃ first second,
      characters = first ++ second ∧ Split first shapes ∧ Split second others := by
  induction shapes generalizing characters with
  | nil =>
      exact ⟨[], characters, rfl, .nil, split⟩
  | cons shape shapes inductionHypothesis =>
      cases split with
      | cons isLexeme cannotGrow split =>
          obtain ⟨first, second, rfl, splitFirst, splitSecond⟩ := inductionHypothesis split
          have ends := (Shape.not_canGrow_iff isLexeme.1).1 cannotGrow
          refine ⟨shape.text ++ first, second, by simp, ?_, splitSecond⟩
          exact
            .cons isLexeme ((Shape.not_canGrow_iff isLexeme.1).2 (ends_of_append ends))
              splitFirst

end Split

/-! ## Where the tokens are -/

namespace Shape

/-- The tokens of further lexemes come where the texts of the first ones stop. -/
theorem located_append
    (offset : Nat)
    (shapes others : List Shape) :
    located offset (shapes ++ others) =
      located offset shapes ++ located (offset + byteWidth (shapes.flatMap text)) others := by
  induction shapes generalizing offset with
  | nil =>
      rfl
  | cons shape shapes inductionHypothesis =>
      simp only [List.cons_append, located, inductionHypothesis, List.flatMap_cons,
        byteWidth_append, Span.ofWidth, Nat.add_assoc]

/-- Some of the first tokens of lexemes are those of as many lexemes. -/
theorem exists_of_located_eq_append
    {offset : Nat}
    {all : List Shape}
    {left right : List (Located Token)}
    (tokensAre : located offset all = left ++ right) :
    ∃ shapes others, all = shapes ++ others ∧ located offset shapes = left := by
  induction left generalizing offset all with
  | nil =>
      exact ⟨[], all, rfl, rfl⟩
  | cons token left inductionHypothesis =>
      cases all with
      | nil =>
          cases tokensAre
      | cons shape all =>
          obtain ⟨rfl, restIs⟩ := List.cons.inj tokensAre
          obtain ⟨shapes, others, rfl, rfl⟩ := inductionHypothesis restIs
          exact ⟨shape :: shapes, others, rfl, rfl⟩

/-- The same lexemes further on have the same tokens, moved by the distance. -/
theorem located_shift
    (distance offset : Nat)
    (shapes : List Shape) :
    located (distance + offset) shapes =
      (located offset shapes).map (Located.respan (Span.shift distance)) := by
  induction shapes generalizing offset with
  | nil =>
      rfl
  | cons shape shapes inductionHypothesis =>
      simp only [located, List.map_cons, Located.respan, Span.ofWidth, Span.shift,
        Nat.add_assoc, ← inductionHypothesis]

/-- No lexeme goes on with a line feed. -/
theorem goesOn_lineFeed
    (shape : Shape) :
    shape.goesOn '\n' = false := by
  cases shape with
  | number negative whole fraction =>
      simp [goesOn, continuesFraction]
  | keyword word =>
      exact (by decide : Word.isCharacter '\n' = false)
  | identifier name =>
      exact (by decide : Word.isCharacter '\n' = false)
  | _ =>
      rfl

end Shape

/-- The tokens of two texts on lines of their own are those of each of them, of which the
second ones are moved behind the line feed. -/
theorem tokenize_lines
    {first second : String}
    {tokens others : List (Located Token)}
    (tokenized : tokenize first = .ok tokens)
    (otherTokenized : tokenize second = .ok others) :
    tokenize (first ++ "\n" ++ second) =
      .ok
        (tokens ++ ⟨.lineEnd, Span.ofWidth first.utf8ByteSize 1⟩ ::
          others.map (Located.respan (Span.shift (first.utf8ByteSize + 1)))) := by
  obtain ⟨shapes, split, rfl⟩ := exists_split_of_tokenize tokenized
  obtain ⟨otherShapes, otherSplit, rfl⟩ := exists_split_of_tokenize otherTokenized
  have lineEnds : ∀ shape : Shape, shape.IsWellFormed → ¬shape.CanGrow ('\n' :: second.toList) :=
    fun shape wellFormed =>
      (Shape.not_canGrow_iff wellFormed).2 (ends_cons _ shape.goesOn_lineFeed)
  have lineEndIsLexeme : Shape.lineEnd.IsLexeme := by
    simp [Shape.IsLexeme, Shape.IsWellFormed, Shape.token]
  have lineEndStays : ¬Shape.lineEnd.CanGrow second.toList :=
    (Shape.not_canGrow_iff lineEndIsLexeme.1).2 fun _ _ => rfl
  have text :
      (first ++ "\n" ++ second).toList =
        first.toList ++ (Shape.lineEnd.text ++ second.toList) := by
    simp [String.toList_append, Shape.text]
  have joined : Split (first ++ "\n" ++ second).toList (shapes ++ .lineEnd :: otherShapes) := by
    rw [text]
    refine split.append (.cons lineEndIsLexeme lineEndStays otherSplit) fun last isLast => ?_
    exact lineEnds last (split.isLexeme_of_mem (List.mem_of_getLast? isLast)).1
  have width : byteWidth (shapes.flatMap Shape.text) = first.utf8ByteSize := by
    rw [split.flatMap_text, byteWidth_toList]
  rw [joined.tokenize_eq, Shape.located_append, width, Nat.zero_add]
  rw [Shape.located, ← Shape.located_shift]
  rfl

end LevelScript.Lexeme
