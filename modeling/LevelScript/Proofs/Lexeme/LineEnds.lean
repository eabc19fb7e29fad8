import LevelScript.Proofs.Grammar.Mistakes
import LevelScript.Proofs.Lexeme.Recovery
import LevelScript.Proofs.Lexeme.Trivia
import LevelScript.Proofs.Text.LineEnds

namespace LevelScript.Lexeme

open Text

/-!
# Lexemes of lines with longer ends

A carriage return in front of a line feed goes on with the white space or the line comment in
front of it, or it is white space of its own. In a string it is dropped, and in a block comment
or in what is left open it is only passed over. So the longer line ends move the faults of a
source and the tokens that carry meaning, and change nothing else about them.
-/

/-! ## What a text tells -/

/-- The piece is a fault or a token that carries meaning. -/
def counts
    (piece : Located (Except LexicalFault Token)) :
    Bool :=
  match piece.value with
  | .ok token => !token.isTrivia
  | .error _ => true

/-- The faults of a text and its tokens that carry meaning, in their order. -/
def telling
    (offset : Nat)
    (characters : List Char) :
    List (Located (Except LexicalFault Token)) :=
  (pieces offset characters).filter counts

/-- Every fault is told. -/
theorem faults_eq_filterMap_telling
    (offset : Nat)
    (characters : List Char) :
    faults offset characters = (telling offset characters).filterMap fault? := by
  unfold faults telling
  rw [List.filterMap_filter]
  refine List.filterMap_congr ?_
  rintro ⟨outcome, span⟩ _
  cases outcome with
  | ok token =>
      simp [fault?]
  | error fault =>
      rfl

/-- Every token that carries meaning is told. -/
theorem significant_eq_filterMap_telling
    (offset : Nat)
    (characters : List Char) :
    Program.significant ((pieces offset characters).filterMap token?) =
      (telling offset characters).filterMap token? := by
  unfold Program.significant telling
  rw [List.filter_filterMap, List.filterMap_filter]
  refine List.filterMap_congr ?_
  rintro ⟨outcome, span⟩ _
  cases outcome with
  | ok token =>
      cases isTrivia : token.isTrivia <;> simp [token?, counts, isTrivia]
  | error fault =>
      rfl

/-! ## Pieces at other places -/

section Respan

variable {move : Span → Span}

theorem filter_counts_map_respan
    (move : Span → Span)
    (row : List (Located (Except LexicalFault Token))) :
    (row.map (Located.respan move)).filter counts =
      (row.filter counts).map (Located.respan move) := by
  rw [List.filter_map]
  rfl

theorem fault?_respan
    (piece : Located (Except LexicalFault Token)) :
    fault? (piece.respan move) = (fault? piece).map (Located.respan move) := by
  obtain ⟨outcome, span⟩ := piece
  cases outcome <;> rfl

theorem token?_respan
    (piece : Located (Except LexicalFault Token)) :
    token? (piece.respan move) = (token? piece).map (Located.respan move) := by
  obtain ⟨outcome, span⟩ := piece
  cases outcome <;> rfl

/-- What is taken from moved pieces is what is taken from the pieces, moved. -/
theorem filterMap_map_respan
    {β : Type}
    {view : Located (Except LexicalFault Token) → Option (Located β)}
    (commutes : ∀ piece, view (piece.respan move) = (view piece).map (Located.respan move))
    (row : List (Located (Except LexicalFault Token))) :
    (row.map (Located.respan move)).filterMap view =
      (row.filterMap view).map (Located.respan move) := by
  rw [List.filterMap_map, List.map_filterMap]
  exact List.filterMap_congr fun piece _ => commutes piece

end Respan

/-! ## Piece by piece -/

theorem telling_nil
    (offset : Nat) :
    telling offset [] = [] := by
  rw [telling, pieces, List.filter_nil]

theorem telling_cons
    {first : Char}
    {rest taken after : List Char}
    {outcome : Except LexicalFault Token}
    (cutIs : cut first rest = ⟨outcome, taken, after⟩)
    (offset : Nat) :
    telling offset (first :: rest) =
      [⟨outcome, Span.ofWidth offset (byteWidth taken)⟩].filter counts ++
        telling (offset + byteWidth taken) after := by
  rw [telling, pieces, ← List.singleton_append, List.filter_append]
  simp only [cutIs]
  rfl

/-- White space tells nothing. -/
theorem telling_append_of_isInlineBlank
    {run : List Char}
    (blanks : ∀ character ∈ run, isInlineBlank character = true)
    (offset : Nat)
    (rest : List Char) :
    telling offset (run ++ rest) = telling (offset + byteWidth run) rest := by
  unfold telling
  rw [← List.filterMap_eq_filter]
  exact filterMap_pieces_append_of_isInlineBlank (fun _ => rfl) blanks offset rest

theorem telling_cons_return
    (offset : Nat)
    (rest : List Char) :
    telling offset ('\r' :: rest) = telling (offset + 1) rest := by
  have blanks : ∀ character ∈ ['\r'], isInlineBlank character = true := by
    rw [List.forall_mem_singleton]
    decide
  exact telling_append_of_isInlineBlank blanks offset rest

/-- A lexeme is told where it ends. -/
theorem telling_append_of_ends
    {shape : Shape}
    (wellFormed : shape.IsWellFormed)
    {rest : List Char}
    (ends : Ends shape.goesOn rest)
    (offset : Nat) :
    telling offset (shape.text ++ rest) =
      [⟨shape.outcome, Span.ofWidth offset (byteWidth shape.text)⟩].filter counts ++
        telling (offset + byteWidth shape.text) rest := by
  obtain ⟨first, more, text, cutIs⟩ := Shape.exists_cut wellFormed ends
  rw [text, telling_cons cutIs]

/-! ## Longer line ends in a lexeme -/

/-- What is written without line feeds stands on one line. -/
theorem feed_not_mem_of_all
    {inClass : Char → Bool}
    (noFeed : inClass '\n' = false)
    {characters : List Char}
    (all : ∀ character ∈ characters, inClass character = true) :
    '\n' ∉ characters := by
  intro member
  rw [all '\n' member] at noFeed
  cases noFeed

theorem feed_not_mem_word
    {first : Char}
    {more : List Char}
    (letter : isLetter first = true)
    (characters : ∀ character ∈ more, Word.isCharacter character = true) :
    '\n' ∉ first :: more := by
  have all : ∀ character ∈ first :: more, Word.isCharacter character = true := by
    rw [List.forall_mem_cons]
    exact ⟨by simp [Word.isCharacter, letter], characters⟩
  exact feed_not_mem_of_all (by decide) all

/-- A comment does not come to be closed. -/
theorem not_mark_infix_addReturns
    {body : List Char}
    (noMark : ¬['*', '/'] <:+: body) :
    ¬['*', '/'] <:+: addReturns body := by
  intro isInfix
  exact noMark (pair_infix_of_infix_addReturns (by decide) (by decide) (by decide) isInfix)

namespace Shape

/-- The lexeme with the longer line ends, which only strings and block comments can hold. -/
def withReturns :
    Shape →
    Shape
  | .string body => .string (addReturns body)
  | .blockComment body => .blockComment (addReturns body)
  | shape => shape

theorem isWellFormed_withReturns
    {shape : Shape}
    (wellFormed : shape.IsWellFormed) :
    shape.withReturns.IsWellFormed := by
  cases shape with
  | string body =>
      exact fun member => wellFormed (mem_of_mem_addReturns (by decide) member)
  | blockComment body =>
      exact not_mark_infix_addReturns wellFormed
  | _ =>
      exact wellFormed

theorem goesOn_withReturns
    (shape : Shape) :
    shape.withReturns.goesOn = shape.goesOn := by
  cases shape <;> rfl

/-- The text of the lexeme with the longer line ends is that with the longer line ends. -/
theorem text_withReturns
    {shape : Shape}
    (wellFormed : shape.IsWellFormed)
    (notLineEnd : shape ≠ .lineEnd) :
    shape.withReturns.text = addReturns shape.text := by
  symm
  cases shape with
  | keyword word =>
      obtain ⟨first, more, text, letter, characters, _⟩ := exists_of_keyword word
      refine addReturns_eq_self ?_
      rw [Shape.text, text]
      exact feed_not_mem_word letter characters
  | identifier name =>
      obtain ⟨first, more, text, letter, characters, _⟩ := exists_of_isIdentifier wellFormed
      refine addReturns_eq_self ?_
      rw [Shape.text, text]
      exact feed_not_mem_word letter characters
  | number negative whole fraction =>
      obtain ⟨_, wholeDigits, fractionDigits⟩ := wellFormed
      have noFeedInWhole := feed_not_mem_of_all (by decide) wholeDigits
      have noFeedInFraction := feed_not_mem_of_all (by decide) fractionDigits
      refine addReturns_eq_self ?_
      simp only [Shape.text, List.mem_append, not_or]
      refine ⟨⟨?sign, noFeedInWhole⟩, ?point⟩
      case sign =>
        cases negative <;> simp
      case point =>
        cases fraction with
        | none =>
            simp [pointText]
        | some digits =>
            simpa [pointText] using noFeedInFraction
  | string body =>
      simp [withReturns, Shape.text, addReturns_cons]
  | blockComment body =>
      simp [withReturns, Shape.text, addReturns_cons]
  | lineComment body =>
      have noFeed : '\n' ∉ body := wellFormed
      exact addReturns_eq_self (by simp [Shape.text, noFeed])
  | blank run =>
      exact addReturns_eq_self (feed_not_mem_of_all (by decide) wellFormed.2)
  | lineEnd =>
      exact (notLineEnd rfl).elim
  | _ =>
      rfl

end Shape

/-- Unified line ends are what they were before they became longer. -/
theorem unifyLineEnds_addReturns
    {body : List Char}
    (noReturn : '\r' ∉ body) :
    unifyLineEnds (addReturns body) = unifyLineEnds body := by
  rw [unifyLineEnds_of_not_mem noReturn]
  induction body with
  | nil =>
      rfl
  | cons character rest inductionHypothesis =>
      rw [List.mem_cons, not_or] at noReturn
      have sameRest := inductionHypothesis noReturn.2
      by_cases isFeed : character = '\n'
      · subst isFeed
        rw [addReturns_cons_feed, unifyLineEnds, sameRest]
      · rw [addReturns_cons isFeed, unifyLineEnds, sameRest]
        · exact fun _ isReturn _ => noReturn.1 isReturn.symm
        · exact fun isReturn => noReturn.1 isReturn.symm

/-- The longer line ends change no lexeme that is told. -/
theorem Shape.filter_counts_withReturns
    {shape : Shape}
    (noReturn : '\r' ∉ shape.text)
    (span : Span) :
    [⟨shape.withReturns.outcome, span⟩].filter counts =
      [⟨shape.outcome, span⟩].filter counts := by
  cases shape with
  | string body =>
      have notInBody : '\r' ∉ body := by
        intro member
        exact noReturn (by simp [Shape.text, member])
      simp only [withReturns, outcome, token_string, unifyLineEnds_addReturns notInBody]
  | _ =>
      rfl

/-! ## One piece with longer line ends -/

/-- What ends in front of a text ends in front of a carriage return in its place, too. -/
theorem ends_addReturns
    {goesOn : Char → Bool}
    (endsAtReturn : goesOn '\r' = false)
    {rest : List Char}
    (ends : Ends goesOn rest) :
    Ends goesOn (addReturns rest) := by
  intro character isFirst
  rcases head?_addReturns rest with sameHead | ⟨_, isReturn⟩
  · exact ends character (sameHead ▸ isFirst)
  · obtain rfl := Option.some.inj (isReturn.symm.trans isFirst)
    exact endsAtReturn

section Pieces

variable {shape : Shape} {rest : List Char}

/-- The carriage return behind a line comment becomes its last character. -/
theorem telling_lineComment_addReturns
    {body : List Char}
    (wellFormed : (Shape.lineComment body).IsWellFormed)
    (ends : Ends (Shape.lineComment body).goesOn rest)
    (offset : Nat) :
    telling offset ((Shape.lineComment body).text ++ addReturns rest) =
      telling (offset + byteWidth (Shape.lineComment body).text) (addReturns rest) := by
  cases rest with
  | nil =>
      rw [addReturns_nil, telling_append_of_ends wellFormed (ends_nil _)]
      rfl
  | cons next more =>
      obtain rfl : next = '\n' := by
        simpa [Shape.goesOn] using ends next rfl
      have longer : (Shape.lineComment (body ++ ['\r'])).IsWellFormed := by
        simpa [Shape.IsWellFormed] using wellFormed
      have text :
          (Shape.lineComment body).text ++ '\r' :: '\n' :: addReturns more =
            (Shape.lineComment (body ++ ['\r'])).text ++ '\n' :: addReturns more := by
        simp [Shape.text]
      have width :
          byteWidth (Shape.lineComment (body ++ ['\r'])).text =
            byteWidth (Shape.lineComment body).text + 1 := by
        simp [Shape.text, Nat.add_assoc]
        rfl
      rw [addReturns_cons_feed, text,
        telling_append_of_ends longer (ends_cons _ (Shape.goesOn_lineFeed _)), width,
        telling_cons_return, Nat.add_assoc]
      rfl

/-- The carriage return in front of a line feed is white space. -/
theorem telling_lineEnd_addReturns
    (offset : Nat)
    (rest : List Char) :
    telling offset (addReturns ('\n' :: rest)) = telling (offset + 2) (addReturns rest) := by
  have wellFormed : Shape.lineEnd.IsWellFormed := True.intro
  have ends : Ends Shape.lineEnd.goesOn (addReturns rest) := fun _ _ => rfl
  rw [addReturns_cons_feed, telling_cons_return]
  exact telling_append_of_ends wellFormed ends (offset + 1)

/-- A lexeme is told as before when the line ends in it and behind it become longer. -/
theorem telling_shape_addReturns
    (wellFormed : shape.IsWellFormed)
    (ends : Ends shape.goesOn rest)
    (noReturn : '\r' ∉ shape.text)
    (offset : Nat) :
    telling offset (addReturns (shape.text ++ rest)) =
      [⟨shape.outcome, Span.ofWidth offset (byteWidth (addReturns shape.text))⟩].filter
          counts ++
        telling (offset + byteWidth (addReturns shape.text)) (addReturns rest) := by
  by_cases isLineEnd : shape = .lineEnd
  · subst isLineEnd
    exact telling_lineEnd_addReturns offset rest
  · have text := Shape.text_withReturns wellFormed isLineEnd
    rw [addReturns_append, ← text, ← Shape.filter_counts_withReturns noReturn]
    -- Only white space and a line comment go on with the carriage return behind them.
    by_cases isBlank : shape.token = .blank
    · cases shape with
      | blank run =>
          exact telling_append_of_isInlineBlank wellFormed.2 offset _
      | _ =>
          cases isBlank
    · by_cases isComment : ∃ comment, shape.token = .lineComment comment
      · cases shape with
        | lineComment body =>
            exact telling_lineComment_addReturns wellFormed ends offset
        | _ =>
            obtain ⟨_, isToken⟩ := isComment
            cases isToken
      · have endsAtReturn : shape.goesOn '\r' = false :=
          Shape.goesOn_eq_false isBlank (not_exists.1 isComment) (Or.inr (by decide))
        refine telling_append_of_ends (Shape.isWellFormed_withReturns wellFormed) ?_ offset
        rw [Shape.goesOn_withReturns]
        exact ends_addReturns endsAtReturn ends

/-- A piece of a text is told as before when the line ends become longer. -/
theorem telling_cons_addReturns
    {first : Char}
    {rest taken after : List Char}
    {outcome : Except LexicalFault Token}
    (cutIs : cut first rest = ⟨outcome, taken, after⟩)
    (noReturn : '\r' ∉ taken)
    (offset : Nat) :
    telling offset (addReturns (first :: rest)) =
      [⟨outcome, Span.ofWidth offset (byteWidth (addReturns taken))⟩].filter counts ++
        telling (offset + byteWidth (addReturns taken)) (addReturns after) := by
  have front := front_cut first rest
  rw [cutIs] at front
  generalize first :: rest = characters at front ⊢
  generalize result : (⟨outcome, taken, after⟩ : Cut) = piece at front
  cases front with
  | @shape shape _ wellFormed ends =>
      obtain ⟨rfl, rfl, rfl⟩ := Cut.mk.inj result
      exact telling_shape_addReturns wellFormed ends noReturn offset
  | @stray character _ isStray ends =>
      obtain ⟨rfl, rfl, rfl⟩ := Cut.mk.inj result
      have notFeed : character ≠ '\n' := by
        rintro rfl
        rcases isStray with isSlash | isMinus | ⟨noMark, _⟩
        · exact absurd isSlash (by decide)
        · exact absurd isMinus (by decide)
        · exact noMark (by simp [marks])
      have endsToo := ends_addReturns (by simp [completesStray]) ends
      rw [addReturns_cons notFeed, addReturns_cons notFeed, addReturns_nil]
      exact telling_cons (cut_of_isStray isStray endsToo) offset
  | @unclosedString rest notClosed =>
      obtain ⟨rfl, rfl, rfl⟩ := Cut.mk.inj result
      have notClosedToo : ']' ∉ addReturns rest :=
        fun member => notClosed (mem_of_mem_addReturns (by decide) member)
      rw [addReturns_cons (by decide)]
      exact telling_cons (cut_unclosedString notClosedToo) offset
  | @unclosedComment rest noMark =>
      obtain ⟨rfl, rfl, rfl⟩ := Cut.mk.inj result
      rw [addReturns_cons (by decide), addReturns_cons (by decide)]
      exact telling_cons (cut_unclosedComment (not_mark_infix_addReturns noMark)) offset

end Pieces

/-! ## A source with longer line ends -/

section Sources

variable {source : String}

/-- What is left of a source is told at the places of the same characters. -/
theorem telling_addReturns
    (noReturn : '\r' ∉ source.toList)
    {front characters : List Char}
    (whole : source.toList = front ++ characters) :
    telling (byteWidth (addReturns front)) (addReturns characters) =
      (telling (byteWidth front) characters).map
        (Located.respan (Span.withReturns source)) := by
  generalize isOffset : byteWidth front = offset
  induction offset, characters using pieceInduction generalizing front with
  | nil offset =>
      rw [addReturns_nil, telling_nil, telling_nil, List.map_nil]
  | cons offset first rest outcome taken after cutIs inductionHypothesis =>
      have parts : taken ++ after = first :: rest := by
        simpa [cutIs] using cut_taken_append_rest first rest
      rw [← parts, ← List.append_assoc] at whole
      have noReturnInTaken : '\r' ∉ taken := by
        intro member
        exact noReturn (by simp [whole, member])
      have later := inductionHypothesis whole (by rw [byteWidth_append, isOffset])
      rw [addReturns_append, byteWidth_append] at later
      have span := Span.withReturns_ofWidth whole
      rw [isOffset] at span
      rw [telling_cons_addReturns cutIs noReturnInTaken, telling_cons cutIs, List.map_append,
        ← later, ← span, ← filter_counts_map_respan]
      rfl

theorem telling_withReturns
    (noReturn : '\r' ∉ source.toList) :
    telling 0 (withReturns source).toList =
      (telling 0 source.toList).map (Located.respan (Span.withReturns source)) := by
  rw [withReturns, String.toList_ofList]
  exact telling_addReturns noReturn (List.nil_append _).symm

/-- The faults of a source stay the same, and their places are moved. -/
theorem faults_withReturns
    (noReturn : '\r' ∉ source.toList) :
    faults 0 (withReturns source).toList =
      (faults 0 source.toList).map (Located.respan (Span.withReturns source)) := by
  rw [faults_eq_filterMap_telling, telling_withReturns noReturn, filterMap_map_respan fault?_respan,
    ← faults_eq_filterMap_telling]

/-- The tokens that carry meaning stay the same, and their places are moved. -/
theorem exists_tokenize_withReturns
    (noReturn : '\r' ∉ source.toList)
    {tokens : List (Located Token)}
    (tokenized : tokenize source = .ok tokens) :
    ∃ others,
      tokenize (withReturns source) = .ok others ∧
        Program.significant others =
          (Program.significant tokens).map (Located.respan (Span.withReturns source)) := by
  obtain ⟨noFault, rfl⟩ := tokenize_eq_ok_iff.1 tokenized
  have noFaultToo : faults 0 (withReturns source).toList = [] := by
    rw [faults_withReturns noReturn, noFault, List.map_nil]
  refine ⟨_, tokenize_eq_ok_iff.2 ⟨noFaultToo, rfl⟩, ?_⟩
  rw [significant_eq_filterMap_telling, telling_withReturns noReturn,
    filterMap_map_respan token?_respan, ← significant_eq_filterMap_telling]

/-- A source with faults has the same ones when its line ends become longer. -/
theorem tokenize_withReturns_of_error
    (noReturn : '\r' ∉ source.toList)
    {found : List (Located LexicalFault)}
    (failed : tokenize source = .error found) :
    tokenize (withReturns source) =
      .error (found.map (Located.respan (Span.withReturns source))) := by
  obtain ⟨rfl, hasFault⟩ := tokenize_eq_error_iff.1 failed
  refine tokenize_eq_error_iff.2 ⟨faults_withReturns noReturn, ?_⟩
  rwa [ne_eq, List.map_eq_nil_iff]

end Sources

end LevelScript.Lexeme
