import LevelScript.Proofs.Decimal.Exact
import LevelScript.Proofs.Decimal.Shortness
import LevelScript.Proofs.Lexeme.Recovery
import LevelScript.Proofs.Lexeme.Split
import LevelScript.Proofs.Text.Slices

namespace LevelScript.Lexeme

open Text (byteWidth)

/-!
# Numbers without loss

A finite number is printed as one lexeme, with the fewest digits that read back as the number,
bit for bit. In turn every number in a source is rounded once: it is out of range exactly if no
finite value is near, and otherwise its token holds the nearest value.
-/

/-- The sign, the digits in front of the point and those behind it spell a value. -/
structure Spells
    (negative : Bool)
    (whole : List Char)
    (fraction : Option (List Char))
    (value : Float) :
    Prop where
  wellFormed : (Shape.number negative whole fraction).IsWellFormed
  /-- The lexeme does not end in the point. -/
  closed : fraction ≠ some []
  /-- The lexeme is read back wherever it ends. -/
  reads : ∀ rest : List Char,
    Ends continuesNumber rest →
      ∃ first more,
        (Shape.number negative whole fraction).text ++ rest = first :: more ∧
          cut first more =
            ⟨.ok (.number value), (Shape.number negative whole fraction).text, rest⟩
  /-- No number lexeme for the value has fewer significant digits. -/
  shortest : ∀ otherNegative otherWhole otherFraction,
    (Shape.number otherNegative otherWhole otherFraction).IsWellFormed →
      (Shape.number otherNegative otherWhole otherFraction).token = .number value →
        (Decimal.significant (whole ++ fraction.getD [])).length ≤
          (Decimal.significant (otherWhole ++ otherFraction.getD [])).length

/-- Tokenizing a source reports a number out of range over the given span. -/
def ReportsOutOfRange
    (source : String)
    (span : Span) :
    Prop :=
  ∃ faults,
    tokenize source = .error faults ∧
      ∃ fault ∈ faults, fault.value.code = .e003 ∧ fault.span = span

/-- A number with a sign is rounded where it stands in a source. -/
structure RoundsAt
    (source : String)
    (span : Span)
    (negative : Bool)
    (number : ℚ) :
    Prop where
  /-- The number is out of range from the overflow on, whatever its sign. -/
  outOfRange : ReportsOutOfRange source span ↔ Binary64.overflow ≤ |number|
  /-- The token of any other number holds the nearest value, and zero keeps its sign. -/
  inRange :
    |number| < Binary64.overflow →
      ∃ value : Float,
        ⟨.ok (.number value), span⟩ ∈ pieces 0 source.toList ∧
          Binary64.IsNearest number value ∧
          Binary64.isNegative value = negative ∧
          ∀ tokens, tokenize source = .ok tokens → ⟨.number value, span⟩ ∈ tokens

/-! ## Printing -/

/-- The digits behind the point of a notation, which has a point only where digits follow. -/
def fraction?
    (written : Decimal.Notation) :
    Option (List Char) :=
  if written.fraction = [] then none else some written.fraction

section Notation

variable (written : Decimal.Notation)

theorem getD_fraction? :
    (fraction? written).getD [] = written.fraction := by
  unfold fraction?
  split
  case isTrue noFraction =>
    exact noFraction.symm
  case isFalse =>
    rfl

theorem text_written
    (negative : Bool) :
    (Shape.number negative written.whole (fraction? written)).text =
      (if negative then ['-'] else []) ++ written.text := by
  rw [Shape.text, Decimal.Notation.text, List.append_assoc]
  congr 2
  unfold fraction?
  split <;> rfl

theorem isWellFormed_written
    (negative : Bool) :
    (Shape.number negative written.whole (fraction? written)).IsWellFormed := by
  refine ⟨written.whole_ne_nil, written.whole_digits, ?_⟩
  rw [getD_fraction?]
  exact written.fraction_digits

end Notation

/-- A number lexeme with the token of a finite value has digits that are rounded to it. -/
theorem nearest_of_token
    {negative : Bool}
    {whole : List Char}
    {fraction : Option (List Char)}
    {value : Float}
    (finite : value.isFinite = true)
    (token : (Shape.number negative whole fraction).token = .number value) :
    Binary64.nearest (Decimal.natural (whole ++ fraction.getD []))
        (10 ^ (fraction.getD []).length) =
      Binary64.magnitude value := by
  obtain rfl : Decimal.ofDigits negative whole (fraction.getD []) = value :=
    Token.number.inj token
  rw [Binary64.isFinite_iff] at finite
  unfold Decimal.ofDigits Decimal.ofFraction at finite ⊢
  rw [(Binary64.magnitude_ofMagnitude (Nat.min_le_right _ _) negative).1, Nat.pow_eq] at finite ⊢
  exact (min_eq_left (by omega)).symm

/-- A finite number is spelled by its plain text. -/
theorem exists_spells
    {value : Float}
    (finite : value.isFinite = true) :
    ∃ negative whole fraction,
      Canonical.number value = .ok (Shape.number negative whole fraction).text ∧
        Spells negative whole fraction value := by
  obtain ⟨written, text, valueIs, shows⟩ := Decimal.Layout.exists_notation_characters finite
  refine ⟨Binary64.isNegative value, written.whole, fraction? written, ?_, ?_⟩
  · rw [text_written, ← text, Canonical.number, if_pos finite]
  refine ⟨isWellFormed_written written _, ?_, ?_, ?_⟩
  · unfold fraction?
    split <;> simp [*]
  · intro rest ends
    have endsFraction : Ends (continuesFraction (fraction? written)) rest := by
      intro character isFirst
      have stops := Bool.or_eq_false_iff.1 (ends character isFirst)
      simp [continuesFraction, stops.1, stops.2]
    obtain ⟨first, more, start, cutIs⟩ :=
      Shape.exists_cut (isWellFormed_written written (Binary64.isNegative value)) endsFraction
    refine ⟨first, more, start, cutIs.trans ?_⟩
    rw [Shape.outcome, getD_fraction?, numberToken, valueIs]
    simp only [finite, if_true]
  · rintro otherNegative otherWhole otherFraction ⟨_, otherWholeDigits, otherDigits⟩ token
    rw [getD_fraction?]
    apply Decimal.Notation.length_significant_le shows _ (nearest_of_token finite token)
    rw [List.forall_mem_append]
    exact ⟨otherWholeDigits, otherDigits⟩

/-! ## Reading -/

/-- There is one piece at a place. -/
theorem eq_of_mem_pieces
    {offset : Nat}
    {characters : List Char}
    {piece other : Located (Except LexicalFault Token)}
    (member : piece ∈ pieces offset characters)
    (otherMember : other ∈ pieces offset characters)
    (samePlace : piece.span = other.span) :
    piece = other := by
  induction offset, characters using pieceInduction with
  | nil offset =>
      simp [pieces] at member
  | cons offset first rest outcome taken after cutIs inductionHypothesis =>
      have width : 0 < byteWidth taken := by
        have nonempty := cut_taken_ne_nil first rest
        rw [cutIs] at nonempty
        exact Nat.pos_of_ne_zero fun noWidth => nonempty (Text.eq_nil_of_byteWidth noWidth)
      rw [pieces] at member otherMember
      simp only [cutIs] at member otherMember
      rcases List.mem_cons.1 member with rfl | isLater <;>
        rcases List.mem_cons.1 otherMember with rfl | otherIsLater
      · rfl
      · have behind := le_start_of_mem_pieces otherIsLater
        rw [← samePlace] at behind
        change offset + byteWidth taken ≤ offset at behind
        omega
      · have behind := le_start_of_mem_pieces isLater
        rw [samePlace] at behind
        change offset + byteWidth taken ≤ offset at behind
        omega
      · exact inductionHypothesis isLater otherIsLater

/-- What is cut off is cut off likewise where nothing follows it. -/
theorem exists_cut_taken
    {first : Char}
    {rest taken after : List Char}
    {outcome : Except LexicalFault Token}
    (cutIs : cut first rest = ⟨outcome, taken, after⟩) :
    ∃ next more, taken = next :: more ∧ (cut next more).outcome = outcome := by
  have front := front_cut first rest
  rw [cutIs] at front
  generalize first :: rest = characters at front
  generalize result : (⟨outcome, taken, after⟩ : Cut) = piece at front
  cases front with
  | @shape shape _ wellFormed _ =>
      cases result
      obtain ⟨next, more, start, cutAlone⟩ := Shape.exists_cut wellFormed (ends_nil shape.goesOn)
      rw [List.append_nil] at start
      exact ⟨next, more, start, by rw [cutAlone]⟩
  | @stray character _ isStray _ =>
      cases result
      refine ⟨character, [], rfl, ?_⟩
      rw [cut_of_isStray isStray (ends_nil _)]
      rfl
  | unclosedString notClosed =>
      cases result
      exact ⟨'[', _, rfl, by rw [cut_unclosedString notClosed]⟩
  | unclosedComment noMark =>
      cases result
      exact ⟨'/', _, rfl, by rw [cut_unclosedComment noMark]⟩

/-- A piece that is spelled like a shape has the outcome of the shape. -/
theorem value_of_slice
    {source : String}
    {piece : Located (Except LexicalFault Token)}
    (member : piece ∈ pieces 0 source.toList)
    {shape : Shape}
    (wellFormed : shape.IsWellFormed)
    (spelled : piece.span.slice source = String.ofList shape.text) :
    piece.value = shape.outcome := by
  obtain ⟨before, first, rest, taken, after, whole, cutIs, span⟩ :=
    exists_cut_of_mem_pieces member
  rw [Nat.zero_add] at span
  rw [span, Span.slice_ofWidth whole, String.ofList_inj] at spelled
  obtain ⟨next, more, start, outcome⟩ := exists_cut_taken cutIs
  obtain ⟨_, _, sameStart, sameCut⟩ := Shape.exists_cut wellFormed (ends_nil _)
  rw [List.append_nil, ← spelled, start] at sameStart
  obtain ⟨rfl, rfl⟩ := List.cons.inj sameStart
  rw [← outcome, sameCut]

/-- A lexeme alone is one piece. -/
theorem pieces_shape
    {shape : Shape}
    (wellFormed : shape.IsWellFormed)
    (offset : Nat) :
    pieces offset shape.text =
      [⟨shape.outcome, Span.ofWidth offset (byteWidth shape.text)⟩] := by
  obtain ⟨first, more, start, cutIs⟩ := Shape.exists_cut wellFormed (ends_nil _)
  rw [List.append_nil] at start
  rw [start, pieces]
  simp only [cutIs, ← start, pieces]

theorem eq_numberOutOfRange
    {fault : LexicalFault}
    (code : fault.code = .e003) :
    fault = .numberOutOfRange := by
  cases fault <;> cases code
  rfl

/-- A number is reported out of range where its piece is one that is too large. -/
theorem reportsOutOfRange_iff
    {source : String}
    {piece : Located (Except LexicalFault Token)}
    (member : piece ∈ pieces 0 source.toList) :
    ReportsOutOfRange source piece.span ↔ piece.value = .error .numberOutOfRange := by
  constructor
  · rintro ⟨found, tokenized, fault, isFound, code, samePlace⟩
    rw [← (tokenize_eq_error_iff.1 tokenized).1, mem_faults_iff] at isFound
    rw [← eq_of_mem_pieces isFound member samePlace, eq_numberOutOfRange code]
  · intro value
    have isFault : ⟨.numberOutOfRange, piece.span⟩ ∈ faults 0 source.toList := by
      rw [mem_faults_iff, ← value]
      exact member
    exact
      ⟨_, tokenize_eq_error_iff.2 ⟨rfl, List.ne_nil_of_mem isFault⟩, _, isFault, rfl, rfl⟩

/-- A number in a source is rounded to the nearest value unless it is out of range. -/
theorem roundsAt_of_slice
    {source : String}
    {piece : Located (Except LexicalFault Token)}
    (member : piece ∈ pieces 0 source.toList)
    {negative : Bool}
    {whole : List Char}
    {fraction : Option (List Char)}
    (wellFormed : (Shape.number negative whole fraction).IsWellFormed)
    (spelled :
      piece.span.slice source = String.ofList (Shape.number negative whole fraction).text) :
    RoundsAt source piece.span negative
      (Binary64.signFactor negative * Decimal.rational whole (fraction.getD [])) := by
  obtain ⟨sign, finite, nearest⟩ := Decimal.ofDigits_isNearest negative whole (fraction.getD [])
  have size :
      |Binary64.signFactor negative * Decimal.rational whole (fraction.getD [])| =
        Decimal.rational whole (fraction.getD []) := by
    rw [abs_mul, abs_of_nonneg (Decimal.rational_nonneg _ _)]
    cases negative <;> simp [Binary64.signFactor]
  have value := value_of_slice member wellFormed spelled
  unfold Shape.outcome numberToken at value
  dsimp only at value
  constructor
  · rw [reportsOutOfRange_iff member, value, size, ← not_lt, ← finite]
    split <;> simp [*]
  · intro inRange
    rw [size] at inRange
    rw [if_pos (finite.2 inRange)] at value
    refine ⟨_, ?_, nearest inRange, sign, ?_⟩
    · rw [← value]
      exact member
    · intro tokens tokenized
      rw [← (tokenize_eq_ok_iff.1 tokenized).2, List.mem_filterMap]
      exact ⟨piece, member, by rw [token?, value]⟩

/--
Numbers keep their value. Every finite number is printed as a number lexeme that does not end
in a point; the lexeme is read back wherever it is followed by neither a digit nor a point, as
the same number bit for bit, and no lexeme that is read as this number has fewer significant
digits. Every number lexeme of a source is reported out of range, over its whole span, exactly
if it stands for a number that is not below the overflow; otherwise its token holds the value
nearest to this number, an even one at a tie.
-/
theorem numbers_keepValue :
    (∀ value : Float,
      value.isFinite = true →
        ∃ negative whole fraction,
          Canonical.number value = .ok (Shape.number negative whole fraction).text ∧
            Spells negative whole fraction value) ∧
      ∀ (source : String) (piece : Located (Except LexicalFault Token)),
        piece ∈ pieces 0 source.toList →
          ∀ negative whole fraction,
            (Shape.number negative whole fraction).IsWellFormed →
              piece.span.slice source =
                  String.ofList (Shape.number negative whole fraction).text →
                RoundsAt source piece.span negative
                  (Binary64.signFactor negative *
                    Decimal.rational whole (fraction.getD [])) :=
  ⟨fun _ finite => exists_spells finite,
    fun _ _ member _ _ _ wellFormed spelled => roundsAt_of_slice member wellFormed spelled⟩

/-- Negative zero is spelled, and a one with 309 zeros is out of range. -/
theorem numbers_keepValue_limits :
    (∃ negative whole fraction,
        Canonical.number (Float.ofBits 0x8000000000000000) =
            .ok (Shape.number negative whole fraction).text ∧
          Spells negative whole fraction (Float.ofBits 0x8000000000000000)) ∧
      ReportsOutOfRange (String.ofList ('1' :: List.replicate 309 '0')) (Span.ofWidth 0 310) := by
  refine ⟨numbers_keepValue.1 _ (by decide +kernel), ?_⟩
  have wellFormed : ∀ zeros,
      (Shape.number false ('1' :: List.replicate zeros '0') none).IsWellFormed := by
    intro zeros
    refine ⟨by simp, ?_, by simp⟩
    rw [List.forall_mem_cons]
    refine ⟨by decide, fun digit member => ?_⟩
    rw [List.eq_of_mem_replicate member]
    decide
  have text : ∀ zeros,
      (Shape.number false ('1' :: List.replicate zeros '0') none).text =
        '1' :: List.replicate zeros '0' := by
    intro zeros
    simp [Shape.text, pointText]
  have number : ∀ zeros,
      Decimal.rational ('1' :: List.replicate zeros '0') [] = (10 ^ zeros : Nat) := by
    intro zeros
    have noDigits : Decimal.natural [] = 0 := rfl
    have one : Decimal.natural ['1'] = 1 := by
      decide
    have whole := Decimal.natural_append_replicate_zero zeros ['1']
    rw [one, Nat.mul_one] at whole
    change Decimal.natural ('1' :: List.replicate zeros '0') = _ at whole
    rw [Decimal.rational, whole, noDigits, Nat.cast_zero, zero_div, add_zero]
  have tooLarge : 2 ^ 1024 ≤ 10 ^ 309 := by
    decide +kernel
  have width : byteWidth ('1' :: List.replicate 309 '0') = 310 := by
    decide +kernel
  have onlyPiece := pieces_shape (wellFormed 309) 0
  have slice := @Span.slice_ofWidth (String.ofList ('1' :: List.replicate 309 '0')) []
    ('1' :: List.replicate 309 '0') []
    (by rw [String.toList_ofList, List.append_nil, List.nil_append])
  rw [text, width] at onlyPiece
  rw [width] at slice
  have rounded := numbers_keepValue.2 (String.ofList ('1' :: List.replicate 309 '0')) _
    (by rw [String.toList_ofList, onlyPiece]; exact List.mem_singleton_self _)
    _ _ _ (wellFormed 309) (by rw [text]; exact slice)
  apply rounded.outOfRange.2
  rw [Option.getD_none, number, Binary64.signFactor, if_neg Bool.false_ne_true, one_mul,
    Nat.abs_cast]
  calc Binary64.overflow
    _ ≤ 2 ^ 1024 := sub_le_self _ (pow_nonneg two_pos.le _)
    _ = (2 ^ 1024 : Nat) := by rw [Nat.cast_pow, Nat.cast_ofNat]
    _ ≤ (10 ^ 309 : Nat) := Nat.cast_le.2 tooLarge

end LevelScript.Lexeme
