import LevelScript.Canonical
import LevelScript.Proofs.Lexeme.Reading
import LevelScript.Proofs.Text.LineEnds

namespace LevelScript.Lexeme

open Text (isBlank isLetter replaceAll replaceAll_append replaceAll_cons)

/-!
# The spelling of tokens

Each token that can stand in a program has a spelling from which it is read again, provided
that the text after it does not go on with it. Blanks may follow each other freely.
-/

/-! ## Words -/

/-- A word is cut off where it ends. -/
theorem cut_word
    {first : Char}
    {more rest : List Char}
    (letter : isLetter first = true)
    (characters : ∀ character ∈ more, Word.isCharacter character = true)
    (ends : Ends Word.isCharacter rest) :
    cut first (more ++ rest) =
      ⟨.ok (wordToken (String.ofList (first :: more))), first :: more, rest⟩ := by
  have noDigit : first.isDigit = false := by
    cases digit : first.isDigit with
    | false =>
        rfl
    | true =>
        rw [Text.isLetter_eq_false_of_isDigit digit] at letter
        cases letter
  rw [cut_of_not_mark (not_mark_of_class (by decide) letter), if_neg (by simp [noDigit]),
    if_pos letter]
  unfold cutRun
  rw [takeWhile_run_append characters ends, dropWhile_run_append characters ends]

/-- The parts of an identifier. -/
theorem exists_of_isIdentifier
    {name : String}
    (isIdentifier : Word.isIdentifier name = true) :
    ∃ first more,
      name.toList = first :: more ∧
        isLetter first = true ∧
        (∀ character ∈ more, Word.isCharacter character = true) ∧
        Keyword.ofText? name = none := by
  unfold Word.isIdentifier at isIdentifier
  split at isIdentifier
  · cases isIdentifier
  · rename_i first more shape
    simp only [Bool.and_eq_true, List.all_eq_true, Option.isNone_iff_eq_none] at isIdentifier
    exact ⟨first, more, shape, isIdentifier.1.1, isIdentifier.1.2, isIdentifier.2⟩

theorem exists_of_keyword
    (word : Keyword) :
    ∃ first more,
      word.text.toList = first :: more ∧
        isLetter first = true ∧
        (∀ character ∈ more, Word.isCharacter character = true) ∧
        Keyword.ofText? word.text = some word := by
  cases word <;>
    exact ⟨_, _, rfl, by decide, List.all_eq_true.1 (by decide), by decide⟩

/-- A reserved word is cut off where it ends. -/
theorem exists_cut_keyword
    (word : Keyword)
    {rest : List Char}
    (ends : Ends Word.isCharacter rest) :
    ∃ first more,
      word.text.toList ++ rest = first :: more ∧
        cut first more = ⟨.ok (.keyword word), word.text.toList, rest⟩ := by
  obtain ⟨first, more, text, letter, characters, reserved⟩ := exists_of_keyword word
  have token : wordToken (String.ofList (first :: more)) = .keyword word := by
    rw [← text, String.ofList_toList]
    unfold wordToken
    rw [reserved]
  have cutIs := cut_word letter characters ends
  rw [token, ← text] at cutIs
  exact ⟨first, more ++ rest, by rw [text, List.cons_append], cutIs⟩

/-- An identifier is cut off where it ends. -/
theorem exists_cut_identifier
    {name : String}
    (isIdentifier : Word.isIdentifier name = true)
    {rest : List Char}
    (ends : Ends Word.isCharacter rest) :
    ∃ first more,
      name.toList ++ rest = first :: more ∧
        cut first more = ⟨.ok (.identifier name), name.toList, rest⟩ := by
  obtain ⟨first, more, text, letter, characters, free⟩ := exists_of_isIdentifier isIdentifier
  have token : wordToken (String.ofList (first :: more)) = .identifier name := by
    rw [← text, String.ofList_toList]
    unfold wordToken
    rw [free]
  have cutIs := cut_word letter characters ends
  rw [token, ← text] at cutIs
  exact ⟨first, more ++ rest, by rw [text, List.cons_append], cutIs⟩

/-! ## Blanks -/

/-- White space is cut off as a run. -/
theorem cut_of_isInlineBlank
    {first : Char}
    (blank : isInlineBlank first = true)
    (rest : List Char) :
    cut first rest = cutRun isInlineBlank (fun _ => .blank) first rest := by
  have isBlank : isBlank first = true := by
    unfold isInlineBlank at blank
    rw [Bool.and_eq_true] at blank
    exact blank.1
  rw [cut_of_not_mark (not_mark_of_class (by decide) blank),
    if_neg (by simp [Text.isDigit_eq_false_of_isBlank isBlank]),
    if_neg (by simp [Text.isLetter_eq_false_of_isBlank isBlank]),
    if_pos isBlank]

/-! ## Numbers -/

/-- A character with which a number may go on. -/
def continuesNumber
    (character : Char) :
    Bool :=
  character.isDigit || character == '.'

/-- The point of a number and the digits after it, if there is a point. -/
def pointText :
    Option (List Char) →
    List Char
  | none => []
  | some fraction => '.' :: fraction

/-- A character with which a number may go on, of which at most one is a point. -/
def continuesFraction
    (fraction : Option (List Char))
    (character : Char) :
    Bool :=
  character.isDigit || (fraction.isNone && character == '.')

/-- The digits in front of a point end where the point or the rest begins. -/
theorem ends_digits_pointText
    {fraction : Option (List Char)}
    {rest : List Char}
    (ends : Ends (continuesFraction fraction) rest) :
    Ends Char.isDigit (pointText fraction ++ rest) := by
  cases fraction with
  | none =>
      intro character isFirst
      exact (Bool.or_eq_false_iff.1 (ends character isFirst)).1
  | some fraction =>
      exact ends_cons _ (by decide)

/-- The fraction of a number is cut off where it ends. -/
theorem cutNumber_pointText
    (negative : Bool)
    (whole : List Char)
    {fraction : Option (List Char)}
    {rest : List Char}
    (fractionDigits : ∀ digit ∈ fraction.getD [], digit.isDigit = true)
    (ends : Ends (continuesFraction fraction) rest) :
    cutNumber negative whole (pointText fraction ++ rest) =
      ⟨numberToken negative whole (fraction.getD []),
        (if negative then ['-'] else []) ++ whole ++ pointText fraction, rest⟩ := by
  cases fraction with
  | none =>
      unfold cutNumber pointText
      dsimp only [List.nil_append]
      split
      · cases ends '.' rfl
      · simp
  | some fraction =>
      have endsDigits : Ends Char.isDigit rest := by
        intro character isFirst
        exact (Bool.or_eq_false_iff.1 (ends character isFirst)).1
      rw [Option.getD_some] at fractionDigits
      unfold cutNumber pointText
      simp only [List.cons_append, Option.getD_some]
      rw [takeWhile_run_append fractionDigits endsDigits,
        dropWhile_run_append fractionDigits endsDigits]

/-- A number is cut off where it ends. -/
theorem cut_number
    (negative : Bool)
    {whole : List Char}
    (fraction : Option (List Char))
    {rest : List Char}
    (nonempty : whole ≠ [])
    (wholeDigits : ∀ digit ∈ whole, digit.isDigit = true)
    (fractionDigits : ∀ digit ∈ fraction.getD [], digit.isDigit = true)
    (ends : Ends (continuesFraction fraction) rest) :
    ∃ first more,
      (if negative then ['-'] else []) ++ whole ++ pointText fraction ++ rest = first :: more ∧
        cut first more =
          ⟨numberToken negative whole (fraction.getD []),
            (if negative then ['-'] else []) ++ whole ++ pointText fraction, rest⟩ := by
  have endsDigits := ends_digits_pointText ends
  have numberCut := cutNumber_pointText negative whole fractionDigits ends
  obtain ⟨digit, digits, rfl⟩ := List.exists_cons_of_ne_nil nonempty
  cases negative with
  | false =>
      have digitFirst : digit.isDigit = true :=
        wholeDigits digit (by simp)
      have run : ∀ character ∈ digits, character.isDigit = true := by
        intro character member
        exact wholeDigits character (List.mem_cons_of_mem _ member)
      refine ⟨digit, digits ++ (pointText fraction ++ rest), by simp, ?_⟩
      rw [cut_of_not_mark (not_mark_of_class (by decide) digitFirst), if_pos digitFirst,
        takeWhile_run_append run endsDigits, dropWhile_run_append run endsDigits, numberCut]
  | true =>
      refine ⟨'-', digit :: digits ++ (pointText fraction ++ rest), by simp, ?_⟩
      change cutMinus _ = _
      unfold cutMinus
      rw [takeWhile_run_append wholeDigits endsDigits,
        dropWhile_run_append wholeDigits endsDigits]
      exact numberCut

/-- A number in decimal notation is cut off where the notation ends. -/
theorem cut_notation
    (negative : Bool)
    (written : Decimal.Notation)
    {rest : List Char}
    (ends : Ends continuesNumber rest) :
    ∃ first more taken,
      (if negative then ['-'] else []) ++ written.text ++ rest = first :: more ∧
        cut first more =
          ⟨numberToken negative written.whole written.fraction, taken, rest⟩ := by
  obtain ⟨whole, fraction, nonempty, wholeDigits, fractionDigits⟩ := written
  have endsFraction : ∀ point : Option (List Char), Ends (continuesFraction point) rest := by
    intro point character isFirst
    have stops := Bool.or_eq_false_iff.1 (ends character isFirst)
    simp [continuesFraction, stops.1, stops.2]
  unfold Decimal.Notation.text
  by_cases noFraction : fraction = []
  · subst noFraction
    obtain ⟨first, more, start, cutIs⟩ :=
      cut_number negative none nonempty wholeDigits fractionDigits (endsFraction none)
    refine ⟨first, more, _, ?_, cutIs⟩
    simpa [pointText] using start
  · obtain ⟨first, more, start, cutIs⟩ :=
      cut_number negative (some fraction) nonempty wholeDigits fractionDigits
        (endsFraction (some fraction))
    refine ⟨first, more, _, ?_, cutIs⟩
    simpa [pointText, noFraction] using start

/-! ## Strings -/

/-- Line ends are unified by replacing the long ones first and then each carriage return. -/
theorem unifyLineEnds_eq_replaceAll
    (body : List Char) :
    unifyLineEnds body =
      replaceAll ['\r'] ['\n'] (replaceAll ['\r', '\n'] ['\n'] body) := by
  fun_induction unifyLineEnds body with
  | case1 rest inductionHypothesis =>
      have isLong : replaceAll ['\r', '\n'] ['\n'] ('\r' :: '\n' :: rest) =
          '\n' :: replaceAll ['\r', '\n'] ['\n'] rest :=
        replaceAll_append (by decide) _ rest
      rw [isLong, replaceAll_cons (by simp), inductionHypothesis]
  | case2 rest isLast inductionHypothesis =>
      have notLong : ¬['\r', '\n'] <+: '\r' :: rest := by
        rintro ⟨more, whole⟩
        exact isLast more (List.cons.inj whole).2.symm
      have isShort : ∀ after, replaceAll ['\r'] ['\n'] ('\r' :: after) =
          '\n' :: replaceAll ['\r'] ['\n'] after :=
        fun after => replaceAll_append (by decide) _ after
      rw [replaceAll_cons notLong, isShort, inductionHypothesis]
  | case3 character rest _ isOther inductionHypothesis =>
      have notReturn : '\r' ≠ character :=
        fun isReturn => isOther isReturn.symm
      rw [replaceAll_cons (by simp [notReturn]), replaceAll_cons (by simp [notReturn]),
        inductionHypothesis]
  | case4 =>
      simp

/-- Without a carriage return the line ends are the same already. -/
theorem unifyLineEnds_of_not_mem
    {body : List Char}
    (noReturn : '\r' ∉ body) :
    unifyLineEnds body = body := by
  fun_induction unifyLineEnds body with
  | case1 rest inductionHypothesis =>
      simp at noReturn
  | case2 rest _ inductionHypothesis =>
      simp at noReturn
  | case3 character rest _ _ inductionHypothesis =>
      rw [inductionHypothesis (fun inRest => noReturn (List.mem_cons_of_mem _ inRest))]
  | case4 =>
      rfl

/-- Once the line ends are unified there is no carriage return. -/
theorem not_mem_unifyLineEnds
    (body : List Char) :
    '\r' ∉ unifyLineEnds body := by
  fun_induction unifyLineEnds body with
  | case1 rest inductionHypothesis =>
      simpa using inductionHypothesis
  | case2 rest _ inductionHypothesis =>
      simpa using inductionHypothesis
  | case3 character rest _ isOther inductionHypothesis =>
      intro member
      rcases List.mem_cons.1 member with isFirst | inRest
      · exact isOther isFirst.symm
      · exact inductionHypothesis inRest
  | case4 =>
      simp

/-- Other characters stay as they are when line ends are unified. -/
theorem mem_of_mem_unifyLineEnds
    {body : List Char}
    {character : Char}
    (notFeed : character ≠ '\n')
    (member : character ∈ unifyLineEnds body) :
    character ∈ body := by
  fun_induction unifyLineEnds body with
  | case1 rest inductionHypothesis =>
      simp only [List.mem_cons, notFeed, false_or] at member
      simp [inductionHypothesis member]
  | case2 rest _ inductionHypothesis =>
      simp only [List.mem_cons, notFeed, false_or] at member
      simp [inductionHypothesis member]
  | case3 first rest _ _ inductionHypothesis =>
      rcases List.mem_cons.1 member with isFirst | inRest
      · simp [isFirst]
      · simp [inductionHypothesis inRest]
  | case4 =>
      exact member

/-- A string ends at the first closing bracket. -/
theorem cutString_append
    {body : List Char}
    (noBracket : ']' ∉ body)
    (after : List Char) :
    cutString (body ++ ']' :: after) =
      ⟨.ok (.string (String.ofList (unifyLineEnds body))), '[' :: (body ++ [']']), after⟩ := by
  have inside : ∀ character ∈ body, (character != ']') = true := by
    intro character member
    simpa using ne_of_mem_of_not_mem member noBracket
  have closes : Ends (· != ']') (']' :: after) :=
    ends_cons after (by decide)
  unfold cutString
  rw [takeWhile_run_append inside closes, dropWhile_run_append inside closes]

/-! ## Reading a spelling -/

namespace Reads

variable {rest : List Char} {tokens : List Token}

theorem dot
    (reads : Reads rest tokens) :
    Reads ('.' :: rest) (.dot :: tokens) :=
  .significant rfl rfl reads

theorem comma
    (reads : Reads rest tokens) :
    Reads (',' :: rest) (.comma :: tokens) :=
  .significant rfl rfl reads

theorem leftParenthesis
    (reads : Reads rest tokens) :
    Reads ('(' :: rest) (.leftParenthesis :: tokens) :=
  .significant rfl rfl reads

theorem rightParenthesis
    (reads : Reads rest tokens) :
    Reads (')' :: rest) (.rightParenthesis :: tokens) :=
  .significant rfl rfl reads

/-- A line end is skipped. -/
theorem lineEnd
    (reads : Reads rest tokens) :
    Reads ('\n' :: rest) tokens :=
  .trivia rfl rfl reads

/-- White space is skipped, alone or together with the white space after it. -/
theorem inlineBlank
    {first : Char}
    (blank : isInlineBlank first = true)
    (reads : Reads rest tokens) :
    Reads (first :: rest) tokens := by
  have cutIs := cut_of_isInlineBlank blank
  cases rest with
  | nil =>
      exact .trivia (cutIs []) rfl reads
  | cons next more =>
      cases nextBlank : isInlineBlank next with
      | false =>
          refine .trivia (cutIs (next :: more)) rfl ?_
          rw [List.dropWhile_cons_of_neg (by simp [nextBlank])]
          exact reads
      | true =>
          refine .trivia (cutIs (next :: more)) rfl ?_
          rw [List.dropWhile_cons_of_pos nextBlank]
          have nextCut := cut_of_isInlineBlank nextBlank more
          cases reads with
          | significant given significantToken _ =>
              rw [given] at nextCut
              cases nextCut
              cases significantToken
          | trivia given _ readsAfter =>
              rw [given] at nextCut
              cases nextCut
              exact readsAfter

/-- A run of white space is skipped, and what follows may go on with it. -/
theorem inlineBlanks
    {run : List Char}
    (blanks : ∀ character ∈ run, isInlineBlank character = true)
    (reads : Reads rest tokens) :
    Reads (run ++ rest) tokens := by
  induction run with
  | nil =>
      exact reads
  | cons first more inductionHypothesis =>
      rw [List.forall_mem_cons] at blanks
      exact (inductionHypothesis blanks.2).inlineBlank blanks.1

theorem space
    (reads : Reads rest tokens) :
    Reads (' ' :: rest) tokens :=
  reads.inlineBlank (by decide)

theorem spaces
    (count : Nat)
    (reads : Reads rest tokens) :
    Reads (List.replicate count ' ' ++ rest) tokens := by
  refine reads.inlineBlanks ?_
  intro character member
  rw [List.eq_of_mem_replicate member]
  decide

theorem identifier
    {name : String}
    (isIdentifier : Word.isIdentifier name = true)
    (ends : Ends Word.isCharacter rest)
    (reads : Reads rest tokens) :
    Reads (name.toList ++ rest) (.identifier name :: tokens) := by
  obtain ⟨first, more, start, cutIs⟩ := exists_cut_identifier isIdentifier ends
  rw [start]
  exact .significant cutIs rfl reads

theorem keyword
    (word : Keyword)
    (ends : Ends Word.isCharacter rest)
    (reads : Reads rest tokens) :
    Reads (word.text.toList ++ rest) (.keyword word :: tokens) := by
  obtain ⟨first, more, start, cutIs⟩ := exists_cut_keyword word ends
  rw [start]
  exact .significant cutIs rfl reads

/-- The plain text of a finite number is read where it ends. -/
theorem number
    {value : Float}
    (finite : value.isFinite = true)
    (ends : Ends continuesNumber rest)
    (reads : Reads rest tokens) :
    Reads (Decimal.Layout.plain.characters value ++ rest) (.number value :: tokens) := by
  obtain ⟨written, shape, valueIs, _⟩ := Decimal.Layout.exists_notation_characters finite
  obtain ⟨first, more, taken, start, cutIs⟩ :=
    cut_notation (Binary64.isNegative value) written ends
  unfold numberToken at cutIs
  dsimp only at cutIs
  rw [valueIs, if_pos finite] at cutIs
  rw [shape, start]
  exact .significant cutIs rfl reads

/-- A string without closing brackets and carriage returns is read. -/
theorem string
    {text : String}
    (representable : text.toList.any Canonical.isUnrepresentable = false)
    (reads : Reads rest tokens) :
    Reads ('[' :: (text.toList ++ ']' :: rest)) (.string text :: tokens) := by
  have allowed : ∀ character ∈ text.toList, character ≠ ']' ∧ character ≠ '\r' := by
    intro character member
    have allowed := List.any_eq_false.1 representable character member
    simpa [Canonical.isUnrepresentable] using allowed
  have noBracket : ']' ∉ text.toList :=
    fun member => (allowed ']' member).1 rfl
  have unified : unifyLineEnds text.toList = text.toList :=
    unifyLineEnds_of_not_mem fun member => (allowed '\r' member).2 rfl
  have cutIs := cutString_append noBracket rest
  rw [unified, String.ofList_toList] at cutIs
  exact .significant cutIs rfl reads

end Reads

end LevelScript.Lexeme
