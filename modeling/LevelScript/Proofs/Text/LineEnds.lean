import LevelScript.Proofs.Text.Bytes
import LevelScript.Span
import Mathlib.Data.List.Infix
import Mathlib.Order.MinMax

namespace LevelScript

/-!
# Line ends of two characters

A text may end its lines with a line feed or with a carriage return and a line feed. With the
longer line ends each place of a text comes later by the number of the line feeds in front of it.
The longer line ends become short again where they are replaced as a pattern.
-/

namespace Text

/-- The text with each occurrence of a pattern of one or more characters replaced. Occurrences
are found from the left and do not overlap. -/
def replaceAll
    (old new : List Char) :
    List Char →
    List Char
  | [] => []
  | character :: rest =>
      if old <+: character :: rest then
        new ++ replaceAll old new (rest.drop (old.length - 1))
      else
        character :: replaceAll old new rest
termination_by characters => characters.length
decreasing_by
  · simp only [List.length_drop, List.length_cons]
    omega
  · simp

/-- The text with a carriage return put in front of each line feed. -/
def addReturns
    (characters : List Char) :
    List Char :=
  characters.flatMap fun character => if character = '\n' then ['\r', '\n'] else [character]

/-- The source with a carriage return put in front of each line feed. -/
def withReturns
    (source : String) :
    String :=
  String.ofList (addReturns source.toList)

/-- The number of line feeds in front of an offset. -/
def feedsBefore :
    List Char →
    Nat →
    Nat
  | [], _ => 0
  | character :: rest, offset =>
      if offset = 0 then
        0
      else
        (if character = '\n' then 1 else 0) + feedsBefore rest (offset - character.utf8Size)

/-- The offset of the same place in the text with the longer line ends. -/
def offsetWithReturns
    (characters : List Char)
    (offset : Nat) :
    Nat :=
  offset + feedsBefore characters offset

/-! ## Replacing -/

@[simp] theorem replaceAll_nil
    (old new : List Char) :
    replaceAll old new [] = [] := by
  rw [replaceAll]

/-- An occurrence at the front is replaced, and what follows it is looked through. -/
theorem replaceAll_append
    {old : List Char}
    (nonempty : old ≠ [])
    (new rest : List Char) :
    replaceAll old new (old ++ rest) = new ++ replaceAll old new rest := by
  obtain ⟨first, others, rfl⟩ := List.exists_cons_of_ne_nil nonempty
  have isHere : first :: others <+: first :: (others ++ rest) :=
    List.prefix_append (first :: others) rest
  rw [List.cons_append, replaceAll, if_pos isHere, List.length_cons, Nat.add_sub_cancel,
    List.drop_left]

/-- A character with which no occurrence starts stays. -/
theorem replaceAll_cons
    {old : List Char}
    {character : Char}
    {rest : List Char}
    (notHere : ¬old <+: character :: rest)
    (new : List Char) :
    replaceAll old new (character :: rest) = character :: replaceAll old new rest := by
  rw [replaceAll, if_neg notHere]

/-! ## The characters -/

@[simp] theorem addReturns_nil :
    addReturns [] = [] :=
  rfl

@[simp] theorem addReturns_cons_feed
    (rest : List Char) :
    addReturns ('\n' :: rest) = '\r' :: '\n' :: addReturns rest :=
  rfl

theorem addReturns_cons
    {character : Char}
    (notFeed : character ≠ '\n')
    (rest : List Char) :
    addReturns (character :: rest) = character :: addReturns rest := by
  simp [addReturns, notFeed]

@[simp] theorem addReturns_append
    (first second : List Char) :
    addReturns (first ++ second) = addReturns first ++ addReturns second :=
  List.flatMap_append

/-- A text of one line stays as it is. -/
theorem addReturns_eq_self
    {characters : List Char}
    (noFeed : '\n' ∉ characters) :
    addReturns characters = characters := by
  induction characters with
  | nil =>
      rfl
  | cons character rest inductionHypothesis =>
      rw [List.mem_cons, not_or] at noFeed
      rw [addReturns_cons (Ne.symm noFeed.1), inductionHypothesis noFeed.2]

/-- Only carriage returns are added. -/
theorem mem_of_mem_addReturns
    {character : Char}
    {characters : List Char}
    (notReturn : character ≠ '\r')
    (member : character ∈ addReturns characters) :
    character ∈ characters := by
  obtain ⟨original, isOriginal, isWritten⟩ := List.mem_flatMap.1 member
  split at isWritten
  case isTrue isFeed =>
    simp only [List.mem_cons, notReturn, List.not_mem_nil, or_false, false_or] at isWritten
    rwa [isWritten, ← isFeed]
  case isFalse =>
    rwa [List.mem_singleton.1 isWritten]

/-- A text starts as before, or with a carriage return in front of its line feed. -/
theorem head?_addReturns
    (characters : List Char) :
    (addReturns characters).head? = characters.head? ∨
      characters.head? = some '\n' ∧ (addReturns characters).head? = some '\r' := by
  cases characters with
  | nil =>
      exact Or.inl rfl
  | cons character rest =>
      by_cases isFeed : character = '\n'
      · subst isFeed
        exact Or.inr ⟨rfl, rfl⟩
      · rw [addReturns_cons isFeed]
        exact Or.inl rfl

/-- Two characters of a line that stand side by side have done so before. -/
theorem pair_infix_of_infix_addReturns
    {first second : Char}
    (firstNotReturn : first ≠ '\r')
    (secondNotReturn : second ≠ '\r')
    (firstNotFeed : first ≠ '\n')
    {characters : List Char}
    (isInfix : [first, second] <:+: addReturns characters) :
    [first, second] <:+: characters := by
  induction characters with
  | nil =>
      exact isInfix
  | cons character rest inductionHypothesis =>
      rw [List.infix_cons_iff]
      by_cases isFeed : character = '\n'
      · subst isFeed
        simp only [addReturns_cons_feed, List.infix_cons_iff, List.cons_prefix_cons] at isInfix
        rcases isInfix with ⟨isReturn, _⟩ | ⟨isFeed, _⟩ | isLater
        · exact (firstNotReturn isReturn).elim
        · exact (firstNotFeed isFeed).elim
        · exact Or.inr (inductionHypothesis isLater)
      · rw [addReturns_cons isFeed, List.infix_cons_iff, List.cons_prefix_cons] at isInfix
        rcases isInfix with ⟨rfl, follows⟩ | isLater
        · refine Or.inl (List.cons_prefix_cons.2 ⟨rfl, ?_⟩)
          obtain ⟨more, shape⟩ := follows
          have isNext : (addReturns rest).head? = some second := by
            rw [← shape]
            rfl
          rcases head?_addReturns rest with sameHead | ⟨_, isReturn⟩
          · obtain ⟨others, rfl⟩ := List.head?_eq_some_iff.1 (sameHead.symm.trans isNext)
            exact ⟨others, rfl⟩
          · exact (secondNotReturn (Option.some.inj (isNext.symm.trans isReturn))).elim
        · exact Or.inr (inductionHypothesis isLater)

/-! ## The offsets -/

/-- Every line feed makes the text one byte wider. -/
theorem byteWidth_addReturns
    (characters : List Char) :
    byteWidth (addReturns characters) = byteWidth characters + characters.count '\n' := by
  induction characters with
  | nil =>
      rfl
  | cons character rest inductionHypothesis =>
      by_cases isFeed : character = '\n'
      · subst isFeed
        have isByte : '\r'.utf8Size = 1 := rfl
        rw [addReturns_cons_feed, byteWidth_cons, byteWidth_cons, byteWidth_cons,
          inductionHypothesis, List.count_cons_self, isByte]
        omega
      · rw [addReturns_cons isFeed, byteWidth_cons, byteWidth_cons, inductionHypothesis,
          List.count_cons_of_ne isFeed, Nat.add_assoc]

theorem feedsBefore_mono
    (characters : List Char)
    {offset later : Nat}
    (inOrder : offset ≤ later) :
    feedsBefore characters offset ≤ feedsBefore characters later := by
  induction characters generalizing offset later with
  | nil =>
      exact Nat.le_refl _
  | cons character rest inductionHypothesis =>
      by_cases atStart : offset = 0
      · simp [feedsBefore, atStart]
      · have behindStart : later ≠ 0 := by
          omega
        simp only [feedsBefore, if_neg atStart, if_neg behindStart]
        exact Nat.add_le_add_left (inductionHypothesis (Nat.sub_le_sub_right inOrder _)) _

/-- Behind the first part of a text all line feeds of that part have been passed. -/
theorem feedsBefore_append
    (before after : List Char) :
    feedsBefore (before ++ after) (byteWidth before) = before.count '\n' := by
  induction before with
  | nil =>
      cases after <;> rfl
  | cons character rest inductionHypothesis =>
      have := character.utf8Size_pos
      have behindStart : character.utf8Size + byteWidth rest ≠ 0 := by
        omega
      rw [List.cons_append, byteWidth_cons, feedsBefore, if_neg behindStart,
        Nat.add_sub_cancel_left, inductionHypothesis, List.count_cons, Nat.add_comm]
      simp

theorem offsetWithReturns_mono
    (characters : List Char) :
    Monotone (offsetWithReturns characters) :=
  fun _ _ inOrder => Nat.add_le_add inOrder (feedsBefore_mono characters inOrder)

/-- What comes behind the first part of a text still comes behind it. -/
theorem offsetWithReturns_append
    (before after : List Char) :
    offsetWithReturns (before ++ after) (byteWidth before) = byteWidth (addReturns before) := by
  rw [offsetWithReturns, feedsBefore_append, byteWidth_addReturns]

end Text

namespace Span

open Text (addReturns byteWidth byteWidth_append offsetWithReturns)

/-- The span of the same part of a source with the longer line ends. -/
def withReturns
    (source : String)
    (span : Span) :
    Span where
  start := offsetWithReturns source.toList span.start
  stop := offsetWithReturns source.toList span.stop
  start_le_stop := Text.offsetWithReturns_mono _ span.start_le_stop

/-- The span of a part of a source becomes that of the same part. -/
theorem withReturns_ofWidth
    {source : String}
    {before text after : List Char}
    (whole : source.toList = before ++ text ++ after) :
    (ofWidth (byteWidth before) (byteWidth text)).withReturns source =
      ofWidth (byteWidth (addReturns before)) (byteWidth (addReturns text)) := by
  have start := Text.offsetWithReturns_append before (text ++ after)
  have stop := Text.offsetWithReturns_append (before ++ text) after
  rw [← List.append_assoc, ← whole] at start
  rw [← whole, byteWidth_append, Text.addReturns_append, byteWidth_append] at stop
  simp only [withReturns, ofWidth, start, stop]

/-- The end of a source becomes the end of the source with the longer line ends. -/
theorem withReturns_point_end
    (source : String) :
    (point source.utf8ByteSize).withReturns source =
      point (Text.withReturns source).utf8ByteSize := by
  have atEnd := Text.offsetWithReturns_append source.toList []
  rw [List.append_nil, Text.byteWidth_toList] at atEnd
  simp only [withReturns, point, atEnd, Text.withReturns, Text.utf8ByteSize_ofList]

end Span

end LevelScript
