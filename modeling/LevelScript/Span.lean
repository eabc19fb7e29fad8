namespace LevelScript

/-!
# Spans of a source text

A span is a half-open range of bytes of the UTF-8 form of a source. Every name, value
and statement that was read keeps the span it was read from.
-/

/-- The bytes from `start` up to and excluding `stop`. -/
structure Span where
  start : Nat
  stop : Nat
  start_le_stop : start ≤ stop := by omega
deriving Repr, DecidableEq

namespace Span

/-- The empty span at the start of the source. -/
def origin : Span where
  start := 0
  stop := 0

instance : Inhabited Span :=
  ⟨origin⟩

/-- The range between two offsets, empty at the first one if they are inverted. -/
def between
    (start stop : Nat) :
    Span where
  start := start
  stop := max stop start

/-- The span of so many bytes from an offset on. -/
def ofWidth
    (start width : Nat) :
    Span where
  start := start
  stop := start + width

/-- The empty span at an offset. -/
def point
    (offset : Nat) :
    Span where
  start := offset
  stop := offset

/-- The number of bytes. -/
def length
    (span : Span) :
    Nat :=
  span.stop - span.start

/-- The span holds no byte. -/
def isEmpty
    (span : Span) :
    Bool :=
  span.length = 0

/-- The smallest span that covers both. -/
def union
    (first second : Span) :
    Span where
  start := min first.start second.start
  stop := max first.stop second.stop
  start_le_stop := by
    have := first.start_le_stop
    omega

/-- The span moved towards the end of the source. -/
def shift
    (distance : Nat)
    (span : Span) :
    Span where
  start := distance + span.start
  stop := distance + span.stop
  start_le_stop := by
    have := span.start_le_stop
    omega

end Span

/-- A value together with the span it was read from. -/
structure Located (α : Type) where
  value : α
  span : Span
deriving Repr, DecidableEq, Inhabited

namespace Located

/-- The offset at which the value starts. -/
def offset
    (located : Located α) :
    Nat :=
  located.span.start

/-- The changed value, at the same place. -/
def map
    (change : α → β)
    (located : Located α) :
    Located β where
  value := change located.value
  span := located.span

/-- A value that was not read from any source. -/
def unplaced
    (value : α) :
    Located α where
  value := value
  span := Span.origin

/-- `==` looks at the values only, so the same words at another place are equal. -/
instance [BEq α] : BEq (Located α) where
  beq first second := first.value == second.value

end Located

end LevelScript
