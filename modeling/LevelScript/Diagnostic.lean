import LevelScript.Span

namespace LevelScript

/-!
# Diagnostics

A diagnostic describes one syntax error: a message, a stable code, labels on the source
and an optional hint. A syntax error consists of the diagnostics in source order.
-/

/-- The stable codes of diagnostics; those from `e100` on belong to the grammar. -/
inductive ErrorCode where
  | e001
  | e002
  | e003
  | e004
  | e100
  | e101
deriving Repr, DecidableEq

/-- A message about a part of the source. -/
structure Label where
  span : Span
  message : String
  /-- The label points at the failure itself and not at a related part. -/
  isPrimary : Bool
deriving Repr, DecidableEq

/-- One syntax error. -/
structure Diagnostic where
  message : String
  code : Option ErrorCode := none
  labels : List Label := []
  help : Option String := none
deriving Repr, DecidableEq

/-- Why a source text is no level: its diagnostics in source order. -/
structure SyntaxError where
  diagnostics : List Diagnostic
deriving Repr, DecidableEq

namespace ErrorCode

/-- The code as it is shown. -/
def text :
    ErrorCode →
    String
  | .e001 => "E001"
  | .e002 => "E002"
  | .e003 => "E003"
  | .e004 => "E004"
  | .e100 => "E100"
  | .e101 => "E101"

/-- What the code stands for in general. -/
def description :
    ErrorCode →
    String
  | .e001 => "unterminated string literal"
  | .e002 => "unexpected character"
  | .e003 => "number out of range"
  | .e004 => "unterminated block comment"
  | .e100 => "unexpected token"
  | .e101 => "incomplete input"

end ErrorCode

namespace Diagnostic

/-- The diagnostic with the given code. -/
def withCode
    (diagnostic : Diagnostic)
    (code : ErrorCode) :
    Diagnostic :=
  { diagnostic with code := some code }

/-- The diagnostic with one more label at the failure. -/
def withLabel
    (diagnostic : Diagnostic)
    (span : Span)
    (message : String) :
    Diagnostic :=
  { diagnostic with labels := diagnostic.labels ++ [⟨span, message, true⟩] }

/-- The diagnostic with one more label at a related part. -/
def withSecondaryLabel
    (diagnostic : Diagnostic)
    (span : Span)
    (message : String) :
    Diagnostic :=
  { diagnostic with labels := diagnostic.labels ++ [⟨span, message, false⟩] }

/-- The diagnostic with the given hint. -/
def withHelp
    (diagnostic : Diagnostic)
    (help : String) :
    Diagnostic :=
  { diagnostic with help := some help }

/-- The span of the first label at the failure. -/
def primarySpan?
    (diagnostic : Diagnostic) :
    Option Span :=
  (diagnostic.labels.find? Label.isPrimary).map Label.span

/-- The diagnostic on one line. -/
def display
    (diagnostic : Diagnostic) :
    String :=
  match diagnostic.code with
  | some code => "error[" ++ code.text ++ "]: " ++ diagnostic.message
  | none => "error: " ++ diagnostic.message

end Diagnostic

namespace SyntaxError

/-- The offset of the first diagnostic that points into the source. -/
def offset?
    (error : SyntaxError) :
    Option Nat :=
  (error.diagnostics.findSome? Diagnostic.primarySpan?).map Span.start

/-- The first diagnostic on one line, with the number of the others. -/
def display
    (error : SyntaxError) :
    String :=
  match error.diagnostics with
  | [] => ""
  | [first] => first.display
  | first :: others => first.display ++ " (+" ++ toString others.length ++ " more)"

end SyntaxError

end LevelScript
