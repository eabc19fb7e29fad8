import LevelScript.Text.Hidden

namespace LevelScript.Text

/-!
# Quoted text

Messages show a text in double quotes. The quote, the backslash and the usual controls
have short escapes, and other characters that would not show are written as code points.
-/

/-- The escape of a code point, in lower case digits without padding. -/
def codeEscape
    (character : Char) :
    List Char :=
  "\\u\x7b".toList ++ Nat.toDigits 16 character.toNat ++ "\x7d".toList

/-- One character as it stands between the quotes. -/
def quotedCharacter
    (character : Char) :
    List Char :=
  match character with
  | '\x00' => ['\\', '0']
  | '\t' => ['\\', 't']
  | '\r' => ['\\', 'r']
  | '\n' => ['\\', 'n']
  | '"' => ['\\', '"']
  | '\\' => ['\\', '\\']
  | other => if isHidden other then codeEscape other else [other]

/-- The text in double quotes. -/
def quoted
    (text : String) :
    String :=
  String.ofList ('"' :: text.toList.flatMap quotedCharacter ++ ['"'])

end LevelScript.Text
