import LevelScript.Proofs.Text.Bytes
import LevelScript.Span

namespace LevelScript.Text

/-!
# Blanking parts of a text

Some spans of a text are blanked by writing a space for each of their bytes. What the spans
do not cover stays as it is.
-/

/-- One of the spans holds the byte at an index. -/
def covers
    (spans : List Span)
    (index : Nat) :
    Bool :=
  spans.any fun span => span.start ≤ index && index < span.stop

/-- Bytes that start at an offset, with a space for each of those in the spans. -/
def blankOut
    (spans : List Span)
    (offset : Nat)
    (bytes : List UInt8) :
    List UInt8 :=
  bytes.mapIdx fun index byte => if covers spans (offset + index) then 0x20 else byte

@[simp] theorem covers_append
    (first second : List Span)
    (index : Nat) :
    covers (first ++ second) index = (covers first index || covers second index) := by
  simp [covers]

/-- Spans that start behind a byte do not hold it. -/
theorem covers_eq_false_of_lt_start
    {spans : List Span}
    {index : Nat}
    (behind : ∀ span ∈ spans, index < span.start) :
    covers spans index = false := by
  rw [covers, List.any_eq_false]
  intro span member
  have start := behind span member
  simp only [Bool.and_eq_true, decide_eq_true_eq, not_and]
  omega

/-- Spans that stop in front of a byte do not hold it. -/
theorem covers_eq_false_of_stop_le
    {spans : List Span}
    {index : Nat}
    (before : ∀ span ∈ spans, span.stop ≤ index) :
    covers spans index = false := by
  rw [covers, List.any_eq_false]
  intro span member
  have stop := before span member
  simp only [Bool.and_eq_true, decide_eq_true_eq, not_and]
  omega

/-- Where some spans stop and the others start, the text can be blanked part by part. -/
theorem blankOut_append
    {earlier later : List Span}
    {offset : Nat}
    {first : List UInt8}
    (stops : ∀ span ∈ earlier, span.stop ≤ offset + first.length)
    (starts : ∀ span ∈ later, offset + first.length ≤ span.start)
    (second : List UInt8) :
    blankOut (earlier ++ later) offset (first ++ second) =
      blankOut earlier offset first ++ blankOut later (offset + first.length) second := by
  have inFirst : ∀ index < first.length,
      covers (earlier ++ later) (offset + index) = covers earlier (offset + index) := by
    intro index bound
    have notLater : covers later (offset + index) = false := by
      refine covers_eq_false_of_lt_start ?_
      intro span member
      have := starts span member
      omega
    rw [covers_append, notLater, Bool.or_false]
  have inSecond : ∀ index < second.length,
      covers (earlier ++ later) (offset + (index + first.length)) =
        covers later (offset + first.length + index) := by
    intro index _
    have notEarlier : covers earlier (offset + first.length + index) = false := by
      refine covers_eq_false_of_stop_le ?_
      intro span member
      have := stops span member
      omega
    rw [Nat.add_comm index, ← Nat.add_assoc, covers_append, notEarlier, Bool.false_or]
  unfold blankOut
  rw [List.mapIdx_append]
  congr 1
  · refine List.mapIdx_eq_mapIdx_iff.2 ?_
    intro index bound
    rw [inFirst index bound]
  · refine List.mapIdx_eq_mapIdx_iff.2 ?_
    intro index bound
    rw [inSecond index bound]

/-- Without spans nothing changes. -/
@[simp] theorem blankOut_nil
    (offset : Nat)
    (bytes : List UInt8) :
    blankOut [] offset bytes = bytes := by
  refine List.ext_getElem (by simp [blankOut]) ?_
  intro index _ _
  simp [blankOut, covers]

/-- The span of the whole text turns all of it into spaces. -/
theorem blankOut_whole
    (offset : Nat)
    (bytes : List UInt8) :
    blankOut [Span.ofWidth offset bytes.length] offset bytes =
      List.replicate bytes.length 0x20 := by
  refine List.ext_getElem (by simp [blankOut]) ?_
  intro index bound _
  have inside : index < bytes.length := by
    simpa [blankOut] using bound
  simp [blankOut, covers, Span.ofWidth, inside]

end LevelScript.Text
