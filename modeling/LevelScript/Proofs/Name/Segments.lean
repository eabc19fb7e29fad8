import LevelScript.Proofs.Grammar.Derivation

namespace LevelScript

/-!
# Segments of dotted names

A name is split into segments at its separators, and joining the segments gives the name
back. Segments that hold no separator are found again in the joined name.
-/

namespace Name

/-- The first segment and further ones, with a separator in front of each further one. -/
def joinSegments
    (first : List Char)
    (rest : List (List Char)) :
    List Char :=
  first ++ rest.flatMap (separator :: ·)

/-- A text is joined from the parts it is split into. -/
theorem exists_splitSegments
    (characters : List Char) :
    ∃ first rest,
      splitSegments characters = first :: rest ∧ joinSegments first rest = characters := by
  induction characters with
  | nil =>
      exact ⟨[], [], rfl, rfl⟩
  | cons character more inductionHypothesis =>
      obtain ⟨first, rest, split, joined⟩ := inductionHypothesis
      by_cases separates : character = separator
      · refine ⟨[], first :: rest, ?_, ?_⟩
        · rw [splitSegments, if_pos separates, split]
        · subst separates
          rw [← joined]
          rfl
      · refine ⟨character :: first, rest, ?_, ?_⟩
        · rw [splitSegments, if_neg separates, split]
        · rw [← joined]
          rfl

/-- A text without separators is one segment. -/
theorem splitSegments_of_not_mem
    {characters : List Char}
    (whole : separator ∉ characters) :
    splitSegments characters = [characters] := by
  induction characters with
  | nil =>
      rfl
  | cons character more inductionHypothesis =>
      rw [List.mem_cons, not_or] at whole
      rw [splitSegments, if_neg (Ne.symm whole.1), inductionHypothesis whole.2]

/-- The first separator ends the first segment. -/
theorem splitSegments_append_separator
    {first : List Char}
    (whole : separator ∉ first)
    (rest : List Char) :
    splitSegments (first ++ separator :: rest) = first :: splitSegments rest := by
  induction first with
  | nil =>
      rw [List.nil_append, splitSegments, if_pos rfl]
  | cons character more inductionHypothesis =>
      rw [List.mem_cons, not_or] at whole
      rw [List.cons_append, splitSegments, if_neg (Ne.symm whole.1),
        inductionHypothesis whole.2]

/-- Parts without separators are found again in the text that joins them. -/
theorem splitSegments_joinSegments
    {first : List Char}
    {rest : List (List Char)}
    (firstWhole : separator ∉ first)
    (restWhole : ∀ segment ∈ rest, separator ∉ segment) :
    splitSegments (joinSegments first rest) = first :: rest := by
  induction rest generalizing first with
  | nil =>
      simpa [joinSegments] using splitSegments_of_not_mem firstWhole
  | cons segment more inductionHypothesis =>
      have further : splitSegments (joinSegments segment more) = segment :: more :=
        inductionHypothesis (restWhole segment (by simp)) fun other member =>
          restWhole other (List.mem_cons_of_mem segment member)
      change splitSegments (first ++ separator :: joinSegments segment more) = _
      rw [splitSegments_append_separator firstWhole, further]

theorem toList_text_child
    (parent inner : Name) :
    (parent.child inner).text.toList =
      parent.text.toList ++ separator :: inner.text.toList := by
  simp [child, separator]

theorem ext_toList
    {first second : Name}
    (same : first.text.toList = second.text.toList) :
    first = second := by
  cases first
  cases second
  exact congrArg Name.mk (String.toList_inj.1 same)

end Name

/-- The characters of a dotted name are those of its segments, joined by separators. -/
theorem DottedTree.toList_text_joined
    (name : DottedTree) :
    name.joined.value.text.toList =
      Name.joinSegments name.first.value.text.toList
        (name.rest.map fun segment => segment.2.value.text.toList) := by
  obtain ⟨first, rest⟩ := name
  change (extended first rest).value.text.toList = _
  induction rest generalizing first with
  | nil =>
      simp [extended, Name.joinSegments]
  | cons segment more inductionHypothesis =>
      have further := inductionHypothesis (first.extendName segment.2)
      change (extended (first.extendName segment.2) more).value.text.toList = _
      rw [further]
      simp [Name.joinSegments, Located.extendName, Name.toList_text_child]

/-- The segments of a dotted name are those it was joined from. -/
theorem DottedTree.segments_joined
    (name : DottedTree)
    (whole : ∀ segment ∈ name.items, Name.separator ∉ segment.value.text.toList) :
    name.joined.value.segments = name.items.map fun segment => segment.value.text := by
  unfold Name.segments
  rw [toList_text_joined, Name.splitSegments_joinSegments]
  · simp [Separated.items, Function.comp_def]
  · exact whole name.first (by simp [Separated.items])
  · intro characters member
    obtain ⟨segment, inRest, rfl⟩ := List.mem_map.1 member
    exact whole segment.2 (by
      simp only [Separated.items, List.mem_cons, List.mem_map]
      exact Or.inr ⟨segment, inRest, rfl⟩)

namespace Name

/-- The derivation of a dotted name that was not read from any source. -/
def tree
    (name : Name) :
    DottedTree :=
  match name.segments with
  | [] => ⟨.unplaced name, []⟩
  | first :: rest =>
      ⟨.unplaced ⟨first⟩, rest.map fun segment => (Span.origin, .unplaced ⟨segment⟩)⟩

/-- The segments of a name and its derivation. -/
theorem exists_segments
    (name : Name) :
    ∃ first rest,
      name.segments = first :: rest ∧
        name.tree =
          ⟨.unplaced ⟨first⟩, rest.map fun segment => (Span.origin, .unplaced ⟨segment⟩)⟩ ∧
        name.text.toList = joinSegments first.toList (rest.map String.toList) := by
  obtain ⟨first, rest, split, joined⟩ := exists_splitSegments name.text.toList
  have segmentsAre : name.segments = String.ofList first :: rest.map String.ofList := by
    unfold segments
    rw [split, List.map_cons]
  refine ⟨String.ofList first, rest.map String.ofList, segmentsAre, ?_, ?_⟩
  · unfold tree
    rw [segmentsAre]
  · rw [← joined]
    simp [Function.comp_def]

private theorem extended_unplaced
    (parent : Name)
    (rest : List String) :
    DottedTree.extended (.unplaced parent)
        (rest.map fun segment => (Span.origin, .unplaced ⟨segment⟩)) =
      .unplaced (rest.foldl (fun name segment => name.child ⟨segment⟩) parent) := by
  induction rest generalizing parent with
  | nil =>
      rfl
  | cons segment more inductionHypothesis =>
      exact inductionHypothesis (parent.child ⟨segment⟩)

/-- The segments of a name are joined to the name. -/
theorem joined_tree
    (name : Name) :
    name.tree.joined = .unplaced name := by
  obtain ⟨first, rest, _, treeIs, text⟩ := exists_segments name
  have joinedText := DottedTree.toList_text_joined name.tree
  rw [treeIs] at joinedText ⊢
  change DottedTree.extended _ _ = _
  change (DottedTree.extended _ _).value.text.toList = _ at joinedText
  rw [extended_unplaced] at joinedText ⊢
  refine congrArg Located.unplaced (ext_toList (joinedText.trans ?_))
  rw [text]
  simp [Located.unplaced, Function.comp_def]

end Name

end LevelScript
