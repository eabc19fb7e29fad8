import LevelScript.Tool

namespace LevelScript

/-!
# Reports

An error of the tool is reported to its user. Each syntax error gets a report of its own
with the labels of its diagnostic; a load error is labelled at what is to blame; all
other errors are told without any source.
-/

/-- A message about a part of the source of a level. -/
structure ReportLabel where
  offset : Nat
  length : Nat
  text : String
  isPrimary : Bool
deriving Repr, DecidableEq

/-- What a report is about. -/
inductive ReportKind where
  | diagnostic
  | load
  /-- An error that has no place in a source. -/
  | other
deriving Repr, DecidableEq

/-- One error as it is told. -/
structure Report where
  kind : ReportKind
  message : String
  code : Option String
  help : Option String := none
  /-- The source that the labels point into. -/
  source : Option String := none
  labels : List ReportLabel := []
  /-- What lies behind the error. -/
  cause : Option String := none
deriving Repr, DecidableEq

namespace ReportLabel

/-- The label of a span. -/
def ofSpan
    (span : Span)
    (text : String)
    (isPrimary : Bool) :
    ReportLabel :=
  ⟨span.start, span.length, text, isPrimary⟩

end ReportLabel

namespace Report

/-- The report of one syntax error. -/
def ofDiagnostic
    (source : String)
    (diagnostic : Diagnostic) :
    Report where
  kind := .diagnostic
  message := diagnostic.message
  code := diagnostic.code.map ErrorCode.text
  help := diagnostic.help
  source := some source
  labels := diagnostic.labels.map fun label =>
    ReportLabel.ofSpan label.span label.message label.isPrimary

/-- The report of a load error. -/
def ofLoadError
    (source : String)
    (error : LoadError) :
    Report where
  kind := .load
  message := error.message
  code := some error.kind.code
  source := some source
  labels := [ReportLabel.ofSpan error.span error.kind.description true]
  cause := error.fault.reason?

/-- The report of an error without a place in a source. -/
def ofMessage
    (code message : String)
    (cause : Option String := none) :
    Report where
  kind := .other
  message
  code := some code
  cause

/-- The reports of an error of the tool. -/
def ofToolError
    (error : ToolError) :
    List Report :=
  match error with
  | .level (.parse syntaxError source) =>
      syntaxError.diagnostics.map (ofDiagnostic source)
  | .level (.load loadError source) => [ofLoadError source loadError]
  | .level (.io fault) => [ofMessage "ldl::io" error.message (some fault.message)]
  | .settings _ => [ofMessage "ldl::config" error.message]
  | .format _ => [ofMessage "ldl::format" error.message]
  | .io _ => [ofMessage "ldl::io" error.message]

/-- A report on its own lines. -/
def text
    (report : Report) :
    String :=
  let code := report.code.elim "" (" [" ++ · ++ "]")
  let labels := report.labels.map fun label =>
    "\n  at " ++ toString label.offset ++ ": " ++ label.text
  let help := report.help.elim "" ("\n  help: " ++ ·)
  "error" ++ code ++ ": " ++ report.message ++ "".intercalate labels ++ help

end Report

end LevelScript
