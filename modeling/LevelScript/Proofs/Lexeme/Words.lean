import LevelScript.Proofs.Lexeme.Split

namespace LevelScript.Lexeme

open Text (byteWidth_toList isLetter)

/-!
# Two ways to recognize a word

A word is cut off as a whole and then looked up among the reserved words. It may as well be
recognized by trials: the reserved words are tried one after the other, each of which must not
go on as a longer word, and what remains is an identifier if it starts with a letter. Both ways
agree on every text, and the identifiers that are printed are exactly those that are read.
-/

/-! ## Trials -/

/--
The reserved word at the front of a text, and what follows it.

Only the first word that the text begins with is considered, and it is refused if a character
of a word follows.
-/
def frontKeyword?
    (characters : List Char) :
    Option (Keyword × List Char) :=
  (Keyword.all.find? fun word => word.text.toList.isPrefixOf characters).bind fun word =>
    let rest := characters.drop word.text.toList.length
    if rest.head?.any Word.isCharacter then
      none
    else
      (Keyword.ofText? word.text).map fun reserved => (reserved, rest)

/-- The identifier at the front of a text where no reserved word is, and what follows it. -/
def frontIdentifier?
    (characters : List Char) :
    Option (String × List Char) :=
  let run := characters.takeWhile Word.isCharacter
  if run.head?.any isLetter then
    some (String.ofList run, characters.dropWhile Word.isCharacter)
  else
    none

/-! ## Reserved words -/

theorem keyword_mem_all
    (word : Keyword) :
    word ∈ Keyword.all := by
  cases word <;> decide

/-- A text is looked up as the reserved word that it spells. -/
theorem ofText?_eq_some_iff
    {text : String}
    {word : Keyword} :
    Keyword.ofText? text = some word ↔ word.text = text := by
  constructor
  · intro reserved
    have spelled := List.find?_some reserved
    exact of_decide_eq_true spelled
  · rintro rfl
    obtain ⟨_, _, _, _, _, reserved⟩ := exists_of_keyword word
    exact reserved

/-- No reserved word is the beginning of another one, so the order of the trials is free. -/
theorem keyword_eq_of_prefix
    {characters : List Char}
    {word other : Keyword}
    (begins : word.text.toList <+: characters)
    (otherBegins : other.text.toList <+: characters) :
    word = other := by
  have prefixFree : ∀ first ∈ Keyword.all, ∀ second ∈ Keyword.all,
      first.text.toList.isPrefixOf second.text.toList = true → first = second := by
    decide
  rcases List.prefix_or_prefix_of_prefix begins otherBegins with inOther | inWord
  · exact
      prefixFree word (keyword_mem_all word) other (keyword_mem_all other)
        (List.isPrefixOf_iff_prefix.2 inOther)
  · exact
      (prefixFree other (keyword_mem_all other) word (keyword_mem_all word)
        (List.isPrefixOf_iff_prefix.2 inWord)).symm

theorem find?_isPrefixOf_eq_some_iff
    {characters : List Char}
    {word : Keyword} :
    (Keyword.all.find? fun word => word.text.toList.isPrefixOf characters) = some word ↔
      word.text.toList <+: characters := by
  constructor
  · intro found
    have begins := List.find?_some found
    exact List.isPrefixOf_iff_prefix.1 begins
  · intro begins
    have tried :
        (Keyword.all.find? fun word => word.text.toList.isPrefixOf characters).isSome := by
      rw [List.find?_isSome]
      exact ⟨word, keyword_mem_all word, List.isPrefixOf_iff_prefix.2 begins⟩
    obtain ⟨other, found⟩ := Option.isSome_iff_exists.1 tried
    have otherBegins := List.find?_some found
    rw [found, keyword_eq_of_prefix begins (List.isPrefixOf_iff_prefix.1 otherBegins)]

theorem ends_iff_head?_any
    {goesOn : Char → Bool}
    {rest : List Char} :
    Ends goesOn rest ↔ rest.head?.any goesOn = false := by
  cases rest <;> simp [Ends]

/-- A trial finds a reserved word that is followed by no character of a word. -/
theorem frontKeyword?_eq_some_iff
    {characters after : List Char}
    {word : Keyword} :
    frontKeyword? characters = some (word, after) ↔
      characters = word.text.toList ++ after ∧ Ends Word.isCharacter after := by
  unfold frontKeyword?
  rw [Option.bind_eq_some_iff]
  constructor
  · rintro ⟨tried, begins, accepted⟩
    obtain ⟨rest, rfl⟩ := find?_isPrefixOf_eq_some_iff.1 begins
    dsimp only at accepted
    rw [List.drop_left, ofText?_eq_some_iff.2 rfl] at accepted
    split at accepted
    · cases accepted
    · rename_i stops
      cases accepted
      exact ⟨rfl, ends_iff_head?_any.2 (Bool.eq_false_iff.2 stops)⟩
  · rintro ⟨rfl, ends⟩
    refine ⟨word, find?_isPrefixOf_eq_some_iff.2 (List.prefix_append _ _), ?_⟩
    dsimp only
    rw [List.drop_left, ofText?_eq_some_iff.2 rfl, ends_iff_head?_any.1 ends]
    rfl

theorem isCharacter_of_isLetter
    {character : Char}
    (letter : isLetter character = true) :
    Word.isCharacter character = true := by
  simp [Word.isCharacter, letter]

/-- A text splits into a run of word characters and a rest in one way only. -/
theorem eq_append_and_ends_iff
    {characters run after : List Char}
    (inside : ∀ character ∈ run, Word.isCharacter character = true) :
    characters = run ++ after ∧ Ends Word.isCharacter after ↔
      characters.takeWhile Word.isCharacter = run ∧
        characters.dropWhile Word.isCharacter = after := by
  constructor
  · rintro ⟨rfl, ends⟩
    exact ⟨takeWhile_run_append inside ends, dropWhile_run_append inside ends⟩
  · rintro ⟨rfl, rfl⟩
    exact ⟨List.takeWhile_append_dropWhile.symm, ends_dropWhile _ _⟩

/-- The trials find a reserved word exactly where the whole word is reserved. -/
theorem frontKeyword?_eq_some_iff_run
    {characters after : List Char}
    {word : Keyword} :
    frontKeyword? characters = some (word, after) ↔
      Keyword.ofText? (String.ofList (characters.takeWhile Word.isCharacter)) = some word ∧
        characters.dropWhile Word.isCharacter = after := by
  obtain ⟨first, more, text, letter, moreInside, _⟩ := exists_of_keyword word
  have inside : ∀ character ∈ word.text.toList, Word.isCharacter character = true := by
    rw [text, List.forall_mem_cons]
    exact ⟨isCharacter_of_isLetter letter, moreInside⟩
  rw [frontKeyword?_eq_some_iff, eq_append_and_ends_iff inside, ofText?_eq_some_iff,
    eq_comm (b := String.ofList _), String.ofList_eq]

/-! ## Cutting off words -/

section Cuts

variable {first : Char} {rest taken after : List Char}

/-- A reserved word is cut off exactly where the trials find it. -/
theorem cut_eq_keyword_iff
    {word : Keyword} :
    cut first rest = ⟨.ok (.keyword word), taken, after⟩ ↔
      taken = word.text.toList ∧ frontKeyword? (first :: rest) = some (word, after) := by
  rw [frontKeyword?_eq_some_iff]
  constructor
  · intro cutIs
    obtain ⟨shape, _, outcome, text, ends⟩ := exists_shape_of_cut cutIs
    have token := Shape.token_of_outcome outcome
    have whole := cut_taken_append_rest first rest
    rw [cutIs] at whole
    cases shape with
    | keyword spelled =>
        cases token
        subst text
        exact ⟨rfl, whole.symm, ends⟩
    | _ =>
        cases token
  · rintro ⟨rfl, whole, ends⟩
    obtain ⟨_, _, start, cutIs⟩ := exists_cut_keyword word ends
    obtain ⟨rfl, rfl⟩ := List.cons.inj (whole.trans start)
    exact cutIs

/-- An identifier is cut off exactly where the trials find it after all reserved words. -/
theorem cut_eq_identifier_iff
    {name : String} :
    cut first rest = ⟨.ok (.identifier name), taken, after⟩ ↔
      taken = name.toList ∧
        frontKeyword? (first :: rest) = none ∧
        frontIdentifier? (first :: rest) = some (name, after) := by
  constructor
  · intro cutIs
    obtain ⟨shape, wellFormed, outcome, text, ends⟩ := exists_shape_of_cut cutIs
    have token := Shape.token_of_outcome outcome
    have whole := cut_taken_append_rest first rest
    rw [cutIs] at whole
    cases shape with
    | identifier spelled =>
        cases token
        subst text
        obtain ⟨initial, more, parts, letter, moreInside, free⟩ :=
          exists_of_isIdentifier wellFormed
        have inside : ∀ character ∈ name.toList, Word.isCharacter character = true := by
          rw [parts, List.forall_mem_cons]
          exact ⟨isCharacter_of_isLetter letter, moreInside⟩
        obtain ⟨run, behind⟩ := (eq_append_and_ends_iff inside).1 ⟨whole.symm, ends⟩
        refine ⟨rfl, ?_, ?_⟩
        · rw [Option.eq_none_iff_forall_ne_some]
          rintro ⟨word, _⟩ found
          have reserved := (frontKeyword?_eq_some_iff_run.1 found).1
          rw [run, String.ofList_toList, free] at reserved
          cases reserved
        · unfold frontIdentifier?
          dsimp only
          rw [run, behind, String.ofList_toList, parts, if_pos (by simp [letter])]
    | _ =>
        cases token
  · rintro ⟨rfl, notReserved, found⟩
    unfold frontIdentifier? at found
    dsimp only at found
    split at found
    case isFalse =>
      cases found
    case isTrue letter =>
      obtain ⟨rfl, rfl⟩ := Prod.mk.inj (Option.some.inj found)
      have inside : ∀ character ∈ (first :: rest).takeWhile Word.isCharacter,
          Word.isCharacter character = true :=
        fun _ => List.mem_takeWhile_imp
      have free : Keyword.ofText?
          (String.ofList ((first :: rest).takeWhile Word.isCharacter)) = none := by
        rw [Option.eq_none_iff_forall_ne_some]
        intro word reserved
        have isReserved := frontKeyword?_eq_some_iff_run.2 ⟨reserved, rfl⟩
        rw [notReserved] at isReserved
        cases isReserved
      have isIdentifier : Word.isIdentifier
          (String.ofList ((first :: rest).takeWhile Word.isCharacter)) = true := by
        unfold Word.isIdentifier
        rw [String.toList_ofList, free]
        generalize (first :: rest).takeWhile Word.isCharacter = run at letter inside
        cases run with
        | nil =>
            cases letter
        | cons initial more =>
            have moreInside := (List.forall_mem_cons.1 inside).2
            simp only [List.head?_cons, Option.any_some] at letter
            simpa [letter] using moreInside
      obtain ⟨_, _, start, cutIs⟩ :=
        exists_cut_identifier isIdentifier (ends_dropWhile Word.isCharacter (first :: rest))
      rw [String.toList_ofList, List.takeWhile_append_dropWhile] at start
      obtain ⟨rfl, rfl⟩ := List.cons.inj start
      exact cutIs

end Cuts

/-! ## Identifiers -/

/-- A text is an identifier exactly if it is read as this identifier and as nothing else. -/
theorem isIdentifier_iff_tokenize
    (text : String) :
    Word.isIdentifier text = true ↔
      tokenize text = .ok [⟨.identifier text, Span.ofWidth 0 text.utf8ByteSize⟩] := by
  constructor
  · intro isIdentifier
    have isLexeme : (Shape.identifier text).IsLexeme := by
      simp [Shape.IsLexeme, Shape.IsWellFormed, Shape.token, isIdentifier]
    have stays : ¬(Shape.identifier text).CanGrow [] :=
      (Shape.not_canGrow_iff isLexeme.1).2 (ends_nil _)
    have split : Split (text.toList ++ []) [.identifier text] :=
      .cons isLexeme stays .nil
    rw [List.append_nil] at split
    rw [split.tokenize_eq, ← byteWidth_toList]
    rfl
  · intro tokenized
    obtain ⟨shapes, split, located⟩ := exists_split_of_tokenize tokenized
    have tokens := congrArg (List.map Located.value) located
    rw [Shape.map_value_located] at tokens
    obtain ⟨shape, rfl, token⟩ := List.map_eq_singleton_iff.1 tokens.symm
    have isLexeme := split.isLexeme_of_mem (List.mem_singleton_self shape)
    cases shape with
    | identifier name =>
        cases token
        exact isLexeme.1
    | _ =>
        cases token

/--
Identifiers and reserved words are the same for printing and for reading. A text is an
identifier exactly if it is tokenized as this one identifier over its whole length. At the
front of any text the trials of the reserved words succeed exactly if the whole run of word
characters is reserved, and cutting off a word gives what the trials find: a reserved word, or
else an identifier.
-/
theorem words_agree :
    (∀ text : String,
      Word.isIdentifier text = true ↔
        tokenize text = .ok [⟨.identifier text, Span.ofWidth 0 text.utf8ByteSize⟩]) ∧
      (∀ (characters : List Char) (word : Keyword) (after : List Char),
        frontKeyword? characters = some (word, after) ↔
          Keyword.ofText? (String.ofList (characters.takeWhile Word.isCharacter)) = some word ∧
            characters.dropWhile Word.isCharacter = after) ∧
      ∀ (first : Char) (rest taken after : List Char),
        (∀ word,
          cut first rest = ⟨.ok (.keyword word), taken, after⟩ ↔
            taken = word.text.toList ∧
              frontKeyword? (first :: rest) = some (word, after)) ∧
          ∀ name,
            cut first rest = ⟨.ok (.identifier name), taken, after⟩ ↔
              taken = name.toList ∧
                frontKeyword? (first :: rest) = none ∧
                frontIdentifier? (first :: rest) = some (name, after) :=
  ⟨isIdentifier_iff_tokenize, fun _ _ _ => frontKeyword?_eq_some_iff_run,
    fun _ _ _ _ => ⟨fun _ => cut_eq_keyword_iff, fun _ => cut_eq_identifier_iff⟩⟩

/-- A reserved word is found in front of a mark, but not in a longer word. -/
example : (frontKeyword? "letter".toList, frontKeyword? "let(".toList) =
    (none, some (.letWord, ['('])) := by
  decide +kernel

end LevelScript.Lexeme
