import LevelScript.Text.Width

namespace LevelScript.Text

/-!
# The bytes of a text

A text is stored as the UTF-8 forms of its characters one after the other, so its width is
the number of its bytes.
-/

/-- The bytes of a text are those of its characters. -/
theorem toUTF8_ofList
    (characters : List Char) :
    (String.ofList characters).toUTF8.data.toList =
      characters.flatMap String.utf8EncodeChar := by
  rw [String.toUTF8, String.toByteArray_ofList, List.utf8Encode]
  simp

@[simp] theorem length_flatMap_utf8EncodeChar
    (characters : List Char) :
    (characters.flatMap String.utf8EncodeChar).length = byteWidth characters := by
  induction characters with
  | nil =>
      rfl
  | cons character rest inductionHypothesis =>
      simp [inductionHypothesis]

/-- The width of a text is the number of its bytes. -/
theorem utf8ByteSize_ofList
    (characters : List Char) :
    (String.ofList characters).utf8ByteSize = byteWidth characters := by
  rw [← length_flatMap_utf8EncodeChar, ← toUTF8_ofList]
  rfl

theorem byteWidth_toList
    (source : String) :
    byteWidth source.toList = source.utf8ByteSize := by
  rw [← utf8ByteSize_ofList, String.ofList_toList]

/-- Behind its first characters a text can be divided. -/
theorem isValid_of_append
    {source : String}
    {before after : List Char}
    (whole : source.toList = before ++ after) :
    String.Pos.Raw.IsValid source ⟨byteWidth before⟩ := by
  rw [String.Pos.Raw.isValid_iff_exists_append]
  refine ⟨String.ofList before, String.ofList after, ?_, ?_⟩
  · rw [← String.ofList_append, ← whole, String.ofList_toList]
  · rw [← utf8ByteSize_ofList]
    rfl

/-- Only the empty text has no width. -/
theorem eq_nil_of_byteWidth
    {characters : List Char}
    (noWidth : byteWidth characters = 0) :
    characters = [] := by
  cases characters with
  | nil =>
      rfl
  | cons character rest =>
      have := character.utf8Size_pos
      rw [byteWidth_cons] at noWidth
      omega

/-- The width of its first part tells where a text is divided. -/
theorem append_inj_of_byteWidth
    {first second rest other : List Char}
    (sameText : first ++ rest = second ++ other)
    (sameWidth : byteWidth first = byteWidth second) :
    first = second ∧ rest = other := by
  rcases List.append_eq_append_iff.1 sameText with ⟨more, rfl, rfl⟩ | ⟨more, rfl, rfl⟩
  · rw [byteWidth_append, Nat.left_eq_add] at sameWidth
    simp [eq_nil_of_byteWidth sameWidth]
  · rw [byteWidth_append, Nat.add_eq_left] at sameWidth
    simp [eq_nil_of_byteWidth sameWidth]

theorem byteWidth_replicate_space
    (count : Nat) :
    byteWidth (List.replicate count ' ') = count := by
  induction count with
  | zero =>
      rfl
  | succ count inductionHypothesis =>
      rw [List.replicate_succ, byteWidth_cons, inductionHypothesis, Nat.add_comm]
      rfl

/-- A space is one byte. -/
theorem flatMap_replicate_space
    (count : Nat) :
    (List.replicate count ' ').flatMap String.utf8EncodeChar = List.replicate count 0x20 := by
  induction count with
  | zero =>
      rfl
  | succ count inductionHypothesis =>
      rw [List.replicate_succ, List.flatMap_cons, inductionHypothesis]
      rfl

end LevelScript.Text
