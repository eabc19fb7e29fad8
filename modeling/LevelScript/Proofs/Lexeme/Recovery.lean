import LevelScript.Proofs.Lexeme.Shape
import LevelScript.Proofs.Text.Blanking

namespace LevelScript.Lexeme

open Text

/-!
# Faults do not depend on each other

A source can be mended fault by fault: if the spans of some of its faults are blanked, exactly
the other ones are left, and each of them stays where it is.
-/

/-- The faults of a text that starts at an offset. -/
def faults
    (offset : Nat)
    (characters : List Char) :
    List (Located LexicalFault) :=
  (pieces offset characters).filterMap fault?

/-- The characters of a piece, or spaces in their place if it is a chosen fault. -/
def mendPiece
    (chosen : Located LexicalFault → Bool)
    (taken : List Char)
    (piece : Located (Except LexicalFault Token)) :
    List Char :=
  if (fault? piece).any chosen then List.replicate (byteWidth taken) ' ' else taken

/-- A text that starts at an offset, with spaces in place of its chosen faults. -/
def mend
    (chosen : Located LexicalFault → Bool)
    (offset : Nat) :
    List Char →
    List Char
  | [] => []
  | first :: rest =>
      let piece := cut first rest
      let span := Span.ofWidth offset (byteWidth piece.taken)
      mendPiece chosen piece.taken ⟨piece.outcome, span⟩ ++ mend chosen span.stop piece.rest
termination_by characters => characters.length
decreasing_by
  exact cut_rest_length_lt first rest

/-! ## Piece by piece -/

/-- What holds of a text if it holds of the rest behind the first piece holds of all texts. -/
theorem pieceInduction
    {motive : Nat → List Char → Prop}
    (nil : ∀ offset, motive offset [])
    (cons : ∀ offset first rest outcome taken after,
      cut first rest = ⟨outcome, taken, after⟩ →
        motive (offset + byteWidth taken) after →
        motive offset (first :: rest))
    (offset : Nat)
    (characters : List Char) :
    motive offset characters := by
  induction offset, characters using pieces.induct with
  | case1 offset =>
      exact nil offset
  | case2 offset first rest piece span inductionHypothesis =>
      exact cons offset first rest _ _ _ rfl inductionHypothesis

section Pieces

variable {first : Char} {rest taken after : List Char} {outcome : Except LexicalFault Token}

/-- The fault that a piece shows comes before those of the rest. -/
theorem faults_cons
    (cutIs : cut first rest = ⟨outcome, taken, after⟩)
    (offset : Nat) :
    faults offset (first :: rest) =
      (fault? ⟨outcome, Span.ofWidth offset (byteWidth taken)⟩).toList ++
        faults (offset + byteWidth taken) after := by
  rw [faults, pieces, List.filterMap_cons]
  simp only [cutIs]
  cases outcome <;> rfl

theorem mend_cons
    (cutIs : cut first rest = ⟨outcome, taken, after⟩)
    (chosen : Located LexicalFault → Bool)
    (offset : Nat) :
    mend chosen offset (first :: rest) =
      mendPiece chosen taken ⟨outcome, Span.ofWidth offset (byteWidth taken)⟩ ++
        mend chosen (offset + byteWidth taken) after := by
  rw [mend]
  simp only [cutIs]
  rfl

end Pieces

/-- A piece of a text is cut off somewhere in it. -/
theorem exists_cut_of_mem_pieces
    {offset : Nat}
    {characters : List Char}
    {piece : Located (Except LexicalFault Token)}
    (member : piece ∈ pieces offset characters) :
    ∃ before first rest taken after,
      characters = before ++ taken ++ after ∧
        cut first rest = ⟨piece.value, taken, after⟩ ∧
        piece.span = Span.ofWidth (offset + byteWidth before) (byteWidth taken) := by
  induction offset, characters using pieceInduction with
  | nil offset =>
      simp [pieces] at member
  | cons offset first rest outcome taken after cutIs inductionHypothesis =>
      have whole := cut_taken_append_rest first rest
      rw [pieces] at member
      simp only [cutIs] at member whole
      rcases List.mem_cons.1 member with rfl | isLater
      · exact ⟨[], first, rest, taken, after, whole.symm, cutIs, rfl⟩
      · obtain ⟨before, next, others, laterTaken, left, laterWhole, laterCut, span⟩ :=
          inductionHypothesis isLater
        refine ⟨taken ++ before, next, others, laterTaken, left, ?_, laterCut, ?_⟩
        · rw [← whole, laterWhole]
          simp
        · rw [span, byteWidth_append, Nat.add_assoc]

/-- The pieces of a text start one behind the other. -/
theorem le_start_of_mem_pieces
    {offset : Nat}
    {characters : List Char}
    {piece : Located (Except LexicalFault Token)}
    (member : piece ∈ pieces offset characters) :
    offset ≤ piece.span.start := by
  obtain ⟨before, _, _, _, _, _, _, span⟩ := exists_cut_of_mem_pieces member
  rw [span]
  exact Nat.le_add_right _ _

/-- A piece is mended if it is a chosen fault, and stays as it is otherwise. -/
theorem mendPiece_cases
    (chosen : Located LexicalFault → Bool)
    (taken : List Char)
    (piece : Located (Except LexicalFault Token)) :
    (∀ fault ∈ (fault? piece).toList, chosen fault = false) ∧
        mendPiece chosen taken piece = taken ∨
      ∃ fault,
        fault? piece = some fault ∧
          chosen fault = true ∧
          mendPiece chosen taken piece = List.replicate (byteWidth taken) ' ' := by
  cases isFault : fault? piece with
  | none =>
      exact Or.inl ⟨by simp, if_neg (by simp [isFault])⟩
  | some fault =>
      cases isChosen : chosen fault with
      | false =>
          exact Or.inl ⟨by simp [isChosen], if_neg (by simp [isFault, isChosen])⟩
      | true =>
          exact Or.inr ⟨fault, rfl, isChosen, if_pos (by simp [isFault, isChosen])⟩

/-! ## Blanks in front -/

/-- White space in front of a text moves all pieces but the blank ones, and that is all. -/
theorem filterMap_pieces_cons_of_isInlineBlank
    {β : Type}
    {view : Located (Except LexicalFault Token) → Option β}
    (noBlank : ∀ span, view ⟨.ok .blank, span⟩ = none)
    {first : Char}
    (blank : isInlineBlank first = true)
    (offset : Nat)
    (rest : List Char) :
    (pieces offset (first :: rest)).filterMap view =
      (pieces (offset + first.utf8Size) rest).filterMap view := by
  have skipRun : ∀ (offset : Nat) {first : Char} (rest : List Char),
      isInlineBlank first = true →
        (pieces offset (first :: rest)).filterMap view =
          (pieces (offset + byteWidth (first :: rest.takeWhile isInlineBlank))
            (rest.dropWhile isInlineBlank)).filterMap view := by
    intro offset first rest blank
    rw [pieces]
    simp only [cut_of_isInlineBlank blank, cutRun]
    rw [List.filterMap_cons_none (noBlank _)]
    rfl
  rw [skipRun offset rest blank]
  cases rest with
  | nil =>
      rfl
  | cons next more =>
      cases nextBlank : isInlineBlank next with
      | false =>
          simp [nextBlank]
      | true =>
          rw [skipRun _ more nextBlank, List.takeWhile_cons_of_pos nextBlank,
            List.dropWhile_cons_of_pos nextBlank, byteWidth_cons, Nat.add_assoc]

theorem filterMap_pieces_append_of_isInlineBlank
    {β : Type}
    {view : Located (Except LexicalFault Token) → Option β}
    (noBlank : ∀ span, view ⟨.ok .blank, span⟩ = none)
    {run : List Char}
    (blanks : ∀ character ∈ run, isInlineBlank character = true)
    (offset : Nat)
    (rest : List Char) :
    (pieces offset (run ++ rest)).filterMap view =
      (pieces (offset + byteWidth run) rest).filterMap view := by
  induction run generalizing offset with
  | nil =>
      rfl
  | cons first more inductionHypothesis =>
      rw [List.forall_mem_cons] at blanks
      rw [List.cons_append, filterMap_pieces_cons_of_isInlineBlank noBlank blanks.1,
        inductionHypothesis blanks.2, byteWidth_cons, Nat.add_assoc]

/-- White space in front of a text moves its faults, and that is all. -/
theorem faults_append_of_isInlineBlank
    {run : List Char}
    (blanks : ∀ character ∈ run, isInlineBlank character = true)
    (offset : Nat)
    (rest : List Char) :
    faults offset (run ++ rest) = faults (offset + byteWidth run) rest :=
  filterMap_pieces_append_of_isInlineBlank (fun _ => rfl) blanks offset rest

/-- A blank token is made of white space. -/
theorem isInlineBlank_of_cut
    {first : Char}
    {rest taken after : List Char}
    (cutIs : cut first rest = ⟨.ok .blank, taken, after⟩) :
    ∀ character ∈ taken, isInlineBlank character = true := by
  obtain ⟨shape, wellFormed, outcome, rfl, _⟩ := exists_shape_of_cut cutIs
  have isBlank := Shape.token_of_outcome outcome
  cases shape with
  | blank run =>
      exact wellFormed.2
  | _ =>
      cases isBlank

/-- What starts with a chosen fault is mended to a space, and all else starts as before. -/
theorem head?_mend
    (chosen : Located LexicalFault → Bool)
    (offset : Nat)
    (characters : List Char) :
    (mend chosen offset characters).head? = characters.head? ∨
      ∃ first,
        characters.head? = some first ∧
          first ≠ '\n' ∧ (mend chosen offset characters).head? = some ' ' := by
  cases characters with
  | nil =>
      exact Or.inl (by rw [mend])
  | cons first rest =>
      have parts := cut_taken_append_rest first rest
      have nonempty := cut_taken_ne_nil first rest
      generalize cutIs : cut first rest = piece at parts nonempty
      obtain ⟨outcome, taken, after⟩ := piece
      obtain ⟨start, more, rfl⟩ := List.exists_cons_of_ne_nil nonempty
      obtain rfl := (List.cons.inj parts).1
      rw [mend_cons cutIs]
      rcases mendPiece_cases chosen (start :: more)
          ⟨outcome, Span.ofWidth offset (byteWidth (start :: more))⟩ with
        ⟨_, kept⟩ | ⟨fault, isFault, _, blanked⟩
      · exact Or.inl (by rw [kept]; rfl)
      · have wide : byteWidth (start :: more) ≠ 0 := by
          have := start.utf8Size_pos
          simp only [byteWidth_cons]
          omega
        refine Or.inr ⟨start, rfl, ?_, ?_⟩
        · rintro rfl
          cases cutIs
          cases isFault
        · rw [blanked, List.head?_append, List.head?_replicate, if_neg wide]
          rfl

/-- A mended text still does not go on with what is in front of it. -/
theorem ends_mend
    (chosen : Located LexicalFault → Bool)
    (offset : Nat)
    {goesOn : Char → Bool}
    {characters : List Char}
    (ends : Ends goesOn characters)
    (space : goesOn ' ' = true → Ends (· != '\n') characters) :
    Ends goesOn (mend chosen offset characters) := by
  intro character isFirst
  rcases head?_mend chosen offset characters with sameHead | ⟨first, isStart, notFeed, isSpace⟩
  · exact ends character (sameHead ▸ isFirst)
  · obtain rfl := Option.some.inj (isSpace.symm.trans isFirst)
    by_contra continues
    rw [Bool.not_eq_false] at continues
    simpa [notFeed] using space continues first isStart

/-- A piece that is not blank stays as it is in front of the mended rest. -/
theorem exists_cut_mend
    (chosen : Located LexicalFault → Bool)
    (offset : Nat)
    {first : Char}
    {rest taken after : List Char}
    {outcome : Except LexicalFault Token}
    (cutIs : cut first rest = ⟨outcome, taken, after⟩)
    (notBlank : outcome ≠ .ok .blank) :
    ∃ start more,
      taken ++ mend chosen offset after = start :: more ∧
        cut start more = ⟨outcome, taken, mend chosen offset after⟩ := by
  have front := front_cut first rest
  rw [cutIs] at front
  generalize whole : first :: rest = characters at front
  generalize result : (⟨outcome, taken, after⟩ : Cut) = piece at front
  cases front with
  | @shape shape _ wellFormed ends =>
      obtain ⟨rfl, rfl, rfl⟩ := Cut.mk.inj result
      refine Shape.exists_cut wellFormed (ends_mend chosen offset ends ?_)
      intro space
      cases shape with
      | lineComment body =>
          -- It goes on with a space, but it ends at a line feed, where no fault starts.
          exact ends
      | blank run =>
          exact (notBlank rfl).elim
      | number negative whole fraction =>
          cases fraction <;> cases space
      | _ =>
          cases space
  | @stray character _ isStray ends =>
      obtain ⟨rfl, rfl, rfl⟩ := Cut.mk.inj result
      refine ⟨character, _, rfl, cut_of_isStray isStray (ends_mend chosen offset ends ?_)⟩
      intro space
      simp [completesStray] at space
  | unclosedString _ =>
      obtain ⟨rfl, rfl, rfl⟩ := Cut.mk.inj result
      rw [mend, List.append_nil]
      exact ⟨first, rest, whole.symm, cutIs⟩
  | unclosedComment _ =>
      obtain ⟨rfl, rfl, rfl⟩ := Cut.mk.inj result
      rw [mend, List.append_nil]
      exact ⟨first, rest, whole.symm, cutIs⟩

/-! ## What is left of the faults -/

/-- A piece in front of the mended rest has the fault it had before. -/
theorem faults_append_mend
    (chosen : Located LexicalFault → Bool)
    {first : Char}
    {rest taken after : List Char}
    {outcome : Except LexicalFault Token}
    (cutIs : cut first rest = ⟨outcome, taken, after⟩)
    (offset stop : Nat) :
    faults offset (taken ++ mend chosen stop after) =
      (fault? ⟨outcome, Span.ofWidth offset (byteWidth taken)⟩).toList ++
        faults (offset + byteWidth taken) (mend chosen stop after) := by
  by_cases isBlank : outcome = .ok .blank
  · -- The run may go on into the mended rest, which changes its span but no fault.
    subst isBlank
    exact faults_append_of_isInlineBlank (isInlineBlank_of_cut cutIs) offset _
  · obtain ⟨start, more, text, cutAgain⟩ := exists_cut_mend chosen stop cutIs isBlank
    rw [text, faults_cons cutAgain]

/-- The faults of a mended text are those that were not chosen. -/
theorem faults_mend
    (chosen : Located LexicalFault → Bool)
    (offset : Nat)
    (characters : List Char) :
    faults offset (mend chosen offset characters) =
      (faults offset characters).filter fun fault => !chosen fault := by
  induction offset, characters using pieceInduction with
  | nil offset =>
      simp [faults, pieces, mend]
  | cons offset first rest outcome taken after cutIs inductionHypothesis =>
      rw [faults_cons cutIs, mend_cons cutIs, List.filter_append, ← inductionHypothesis]
      rcases mendPiece_cases chosen taken ⟨outcome, Span.ofWidth offset (byteWidth taken)⟩ with
        ⟨notChosen, kept⟩ | ⟨fault, isFault, isChosen, blanked⟩
      · have allLeft := List.filter_eq_self.2 fun fault member =>
          congrArg not (notChosen fault member)
        rw [kept, faults_append_mend chosen cutIs, allLeft]
      · have blanks : ∀ character ∈ List.replicate (byteWidth taken) ' ',
            isInlineBlank character = true := by
          intro character member
          rw [List.eq_of_mem_replicate member]
          decide
        rw [blanked, faults_append_of_isInlineBlank blanks, byteWidth_replicate_space, isFault]
        simp [isChosen]

/-! ## The bytes of a mended text -/

/-- The fault of a piece has its cause and its span. -/
theorem fault?_eq_some_iff
    {piece : Located (Except LexicalFault Token)}
    {fault : Located LexicalFault} :
    fault? piece = some fault ↔ piece.value = .error fault.value ∧ fault.span = piece.span := by
  obtain ⟨outcome, span⟩ := piece
  obtain ⟨cause, place⟩ := fault
  cases outcome <;> simp [fault?, eq_comm]

/-- The faults of a text are those of its pieces that show one. -/
theorem mem_faults_iff
    {offset : Nat}
    {characters : List Char}
    {fault : Located LexicalFault} :
    fault ∈ faults offset characters ↔
      ⟨.error fault.value, fault.span⟩ ∈ pieces offset characters := by
  rw [faults, List.mem_filterMap]
  constructor
  · rintro ⟨⟨outcome, span⟩, member, isFault⟩
    obtain ⟨rfl, rfl⟩ := fault?_eq_some_iff.1 isFault
    exact member
  · intro member
    exact ⟨_, member, rfl⟩

/-- All faults lie behind the offset from which they are counted. -/
theorem le_start_of_mem_faults
    {offset : Nat}
    {characters : List Char}
    {fault : Located LexicalFault}
    (member : fault ∈ faults offset characters) :
    offset ≤ fault.span.start :=
  le_start_of_mem_pieces (mem_faults_iff.1 member)

/-- The bytes of a mended text are blanked in the spans of the chosen faults. -/
theorem flatMap_mend
    (chosen : Located LexicalFault → Bool)
    (offset : Nat)
    (characters : List Char) :
    (mend chosen offset characters).flatMap String.utf8EncodeChar =
      blankOut (((faults offset characters).filter chosen).map Located.span) offset
        (characters.flatMap String.utf8EncodeChar) := by
  induction offset, characters using pieceInduction with
  | nil offset =>
      simp [mend, blankOut]
  | cons offset first rest outcome taken after cutIs inductionHypothesis =>
      have whole : taken ++ after = first :: rest := by
        simpa [cutIs] using cut_taken_append_rest first rest
      have width := length_flatMap_utf8EncodeChar taken
      have starts : ∀ span ∈ ((faults (offset + byteWidth taken) after).filter chosen).map
          Located.span, offset + (taken.flatMap String.utf8EncodeChar).length ≤ span.start := by
        rw [List.forall_mem_map, width]
        intro fault member
        exact le_start_of_mem_faults (List.mem_filter.1 member).1
      rw [faults_cons cutIs, mend_cons cutIs, ← whole, List.filter_append, List.map_append,
        List.flatMap_append, List.flatMap_append, inductionHypothesis]
      rcases mendPiece_cases chosen taken ⟨outcome, Span.ofWidth offset (byteWidth taken)⟩ with
        ⟨notChosen, kept⟩ | ⟨fault, isFault, isChosen, blanked⟩
      · have noneChosen := List.filter_eq_nil_iff.2 fun fault member =>
          Bool.not_eq_true _ ▸ notChosen fault member
        rw [kept, noneChosen, List.map_nil, blankOut_append (by simp) starts, width]
        simp
      · have ownSpan :
            ((fault? ⟨outcome, Span.ofWidth offset (byteWidth taken)⟩).toList.filter chosen).map
                Located.span =
              [Span.ofWidth offset (taken.flatMap String.utf8EncodeChar).length] := by
          have sameSpan := (fault?_eq_some_iff.1 isFault).2
          rw [isFault, width]
          simpa [isChosen] using sameSpan
        rw [blanked, ownSpan, blankOut_append (by simp [Span.ofWidth]) starts, blankOut_whole,
          flatMap_replicate_space, width]

/-- No fault of a text is that a token is looked for where the text has ended. -/
theorem ne_unexpectedEnd_of_mem_faults
    {offset : Nat}
    {characters : List Char}
    {fault : Located LexicalFault}
    (member : fault ∈ faults offset characters) :
    fault.value ≠ .unexpectedEnd := by
  obtain ⟨_, _, _, _, _, _, cutIs, _⟩ := exists_cut_of_mem_pieces (mem_faults_iff.1 member)
  rcases fault_of_cut cutIs with ⟨character, isStray, _⟩ | isOther
  · rw [isStray]
    exact LexicalFault.noConfusion
  · exact ne_of_mem_of_not_mem isOther (by decide)

/-- The label of a fault of a text is at the fault. -/
theorem labels_diagnostic
    {offset : Nat}
    {characters : List Char}
    {fault : Located LexicalFault}
    (member : fault ∈ faults offset characters) :
    (LexicalFault.diagnostic fault).labels =
      [⟨fault.span, fault.value.code.description, true⟩] := by
  rw [LexicalFault.diagnostic,
    LexicalFault.shownSpan_eq (ne_unexpectedEnd_of_mem_faults member)]

/-- A lexical diagnostic points at the fault. -/
theorem primarySpan?_diagnostic
    {offset : Nat}
    {characters : List Char}
    {fault : Located LexicalFault}
    (member : fault ∈ faults offset characters) :
    (LexicalFault.diagnostic fault).primarySpan? = some fault.span := by
  rw [Diagnostic.primarySpan?, labels_diagnostic member]
  rfl

/-- A source without faults is answered with the tokens of all its pieces. -/
theorem tokenize_eq_ok_iff
    {source : String}
    {tokens : List (Located Token)} :
    tokenize source = .ok tokens ↔
      faults 0 source.toList = [] ∧ (pieces 0 source.toList).filterMap token? = tokens := by
  unfold tokenize faults
  dsimp only
  split
  case h_1 noFault =>
    simp [noFault]
  case h_2 hasFault =>
    simp only [reduceCtorEq, false_iff, not_and]
    exact fun noFault => (hasFault noFault).elim

/-- A source without faults is tokenized. -/
theorem exists_tokenize_eq_ok
    {source : String}
    (noFault : faults 0 source.toList = []) :
    ∃ tokens, tokenize source = .ok tokens :=
  ⟨_, tokenize_eq_ok_iff.2 ⟨noFault, rfl⟩⟩

/-- A source with faults is answered with all of them. -/
theorem tokenize_eq_error_iff
    {source : String}
    {found : List (Located LexicalFault)} :
    tokenize source = .error found ↔ faults 0 source.toList = found ∧ found ≠ [] := by
  unfold tokenize faults
  dsimp only
  split
  case h_1 noFault =>
    simp only [noFault, reduceCtorEq, false_iff, not_and, ne_eq, not_not]
    exact Eq.symm
  case h_2 hasFault =>
    rw [Except.error.injEq]
    constructor
    · rintro rfl
      exact ⟨rfl, hasFault⟩
    · exact And.left

/-- If the spans of some of the faults are blanked, the source has exactly the other faults,
with the same causes at the same spans and in the same order. -/
theorem tokenize_blankOut
    {source : String}
    {found : List (Located LexicalFault)}
    (failed : tokenize source = .error found)
    (chosen : Located LexicalFault → Bool) :
    ∃ mended : String,
      mended.toUTF8.data.toList =
          blankOut
            (((found.filter chosen).map LexicalFault.diagnostic).filterMap
              Diagnostic.primarySpan?)
            0 source.toUTF8.data.toList ∧
        match found.filter fun fault => !chosen fault with
        | [] => ∃ tokens, tokenize mended = .ok tokens
        | others => tokenize mended = .error others := by
  obtain ⟨isFound, _⟩ := tokenize_eq_error_iff.1 failed
  have spans : ((found.filter chosen).map LexicalFault.diagnostic).filterMap
      Diagnostic.primarySpan? = (found.filter chosen).map Located.span := by
    rw [List.filterMap_map, ← List.filterMap_eq_map]
    refine List.filterMap_congr fun fault member => ?_
    have isFault : fault ∈ faults 0 source.toList := by
      rw [isFound]
      exact (List.mem_filter.1 member).1
    exact primarySpan?_diagnostic isFault
  refine ⟨String.ofList (mend chosen 0 source.toList), ?_, ?_⟩
  · rw [spans, toUTF8_ofList, flatMap_mend, isFound, ← toUTF8_ofList, String.ofList_toList]
  · have left : faults 0 (String.ofList (mend chosen 0 source.toList)).toList =
        found.filter fun fault => !chosen fault := by
      rw [String.toList_ofList, faults_mend, isFound]
    split
    case h_1 allChosen =>
      exact exists_tokenize_eq_ok (left.trans allChosen)
    case h_2 others =>
      exact tokenize_eq_error_iff.2 ⟨left, others⟩

/-- With the stray mark blanked the open comment is left, which stays at its offset. -/
theorem tokenize_blankOut_stray :
    tokenize "é-#/*" =
        .error [⟨.strayCharacter '-', ⟨2, 3, by omega⟩⟩, ⟨.strayCharacter '#', ⟨3, 4, by omega⟩⟩,
          ⟨.unclosedComment, ⟨4, 6, by omega⟩⟩] ∧
      ∃ mended : String,
        mended.toUTF8.data.toList = [0xc3, 0xa9, 0x2d, 0x20, 0x2f, 0x2a] ∧
          tokenize mended =
            .error [⟨.strayCharacter '-', ⟨2, 3, by omega⟩⟩,
              ⟨.unclosedComment, ⟨4, 6, by omega⟩⟩] := by
  have failed :
      tokenize "é-#/*" =
        .error [⟨.strayCharacter '-', ⟨2, 3, by omega⟩⟩,
          ⟨.strayCharacter '#', ⟨3, 4, by omega⟩⟩, ⟨.unclosedComment, ⟨4, 6, by omega⟩⟩] := by
    decide +kernel
  obtain ⟨mended, bytes, left⟩ :=
    tokenize_blankOut failed fun fault => fault.value == .strayCharacter '#'
  exact ⟨failed, mended, bytes, left⟩

end LevelScript.Lexeme
