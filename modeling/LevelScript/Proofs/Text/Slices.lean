import Mathlib.Data.String.Basic
import LevelScript.Proofs.Text.Bytes
import LevelScript.Span

namespace LevelScript

/-!
# Slices of a source

A span that starts and stops between two characters of a source cuts out the text between
them.
-/

/-- The text that a span cuts out of a source. -/
def Span.slice
    (span : Span)
    (source : String) :
    String :=
  String.Pos.Raw.extract source ⟨span.start⟩ ⟨span.stop⟩

open Text (byteWidth)

theorem Text.utf8Len_eq_byteWidth
    (characters : List Char) :
    String.utf8Len characters = byteWidth characters := by
  induction characters with
  | nil =>
      rfl
  | cons character rest inductionHypothesis =>
      rw [String.utf8Len_cons, inductionHypothesis, byteWidth_cons, Nat.add_comm]

/-- A span behind one part of a text and as wide as the next one cuts out the next one. -/
theorem Span.slice_ofWidth
    {source : String}
    {before text after : List Char}
    (whole : source.toList = before ++ text ++ after) :
    (ofWidth (byteWidth before) (byteWidth text)).slice source = String.ofList text := by
  have extracted := String.extract_of_valid before text after
  rwa [← whole, String.ofList_toList, Text.utf8Len_eq_byteWidth, Text.utf8Len_eq_byteWidth]
    at extracted

end LevelScript
