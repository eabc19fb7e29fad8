import LevelScript.Text.Letter
import LevelScript.Text.Numeral
import LevelScript.Token

namespace LevelScript.Word

/-!
# Words

A word is a run of letters and numerals of any script. One that starts with a letter is
an identifier, unless it is one of the reserved words.
-/

open Text (isLetter isNumeral)

/-- A character with which a word goes on. -/
def isCharacter
    (character : Char) :
    Bool :=
  isLetter character || isNumeral character

/-- The text is a word that starts with a letter and is not reserved. -/
def isIdentifier
    (text : String) :
    Bool :=
  match text.toList with
  | [] => false
  | first :: rest =>
      isLetter first && rest.all isCharacter && (Keyword.ofText? text).isNone

end LevelScript.Word
