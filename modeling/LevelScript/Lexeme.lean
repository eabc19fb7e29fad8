import LevelScript.Lexeme.Cut
import LevelScript.Text.Width

namespace LevelScript.Lexeme

/-!
# Lexemes

A source text is cut into lexemes from its start to its end. A lexeme is a token or shows
a fault; a fault does not stop the cutting, so all of them are found at once.
-/

open Text (byteWidth)

/-- All lexemes of a text that starts at an offset, tokens and faults alike. -/
def pieces
    (offset : Nat) :
    List Char →
    List (Located (Except LexicalFault Token))
  | [] => []
  | first :: rest =>
      let piece := cut first rest
      let span := Span.ofWidth offset (byteWidth piece.taken)
      ⟨piece.outcome, span⟩ :: pieces span.stop piece.rest
termination_by characters => characters.length
decreasing_by
  exact cut_rest_length_lt first rest

/-- The token at a place, if there is no fault. -/
def token?
    (piece : Located (Except LexicalFault Token)) :
    Option (Located Token) :=
  match piece.value with
  | .ok token => some ⟨token, piece.span⟩
  | .error _ => none

/-- The fault at a place, if there is one. -/
def fault?
    (piece : Located (Except LexicalFault Token)) :
    Option (Located LexicalFault) :=
  match piece.value with
  | .ok _ => none
  | .error fault => some ⟨fault, piece.span⟩

/-- The tokens of a source, or all of its faults if it has any. -/
def tokenize
    (source : String) :
    Except (List (Located LexicalFault)) (List (Located Token)) :=
  let all := pieces 0 source.toList
  match all.filterMap fault? with
  | [] => .ok (all.filterMap token?)
  | faults => .error faults

end LevelScript.Lexeme
