namespace LevelScript.CommandLine

/-!
# Arguments

An argument that starts with hyphens names an option or asks for information; a value
may be attached to it. Which names are known depends on where the argument stands.
-/

/-- Where an argument stands: in front of the command word, or behind one. -/
inductive Scope where
  | tool
  | check
  | format
deriving Repr, DecidableEq

/-- An option that takes a value. -/
inductive OptionName where
  | settings
  | logLevel
  | output
deriving Repr, DecidableEq

/-- What a name behind hyphens asks for. -/
inductive Switch where
  | help
  | version
  | option (name : OptionName)
deriving Repr, DecidableEq

/-- The form of an argument. -/
inductive Argument where
  /-- Two hyphens alone: all arguments that follow are operands. -/
  | endOfOptions
  /-- Two hyphens and a name, with what follows an equals sign. -/
  | long (name : String) (value : Option String)
  /-- One hyphen and a letter, with what follows directly or behind an equals sign. -/
  | short (letter : Char) (value : Option String)
  | operand
deriving Repr, DecidableEq

namespace OptionName

/-- The name of an option as it is written. -/
def text :
    OptionName →
    String
  | .settings => "--config"
  | .logLevel => "--log-level"
  | .output => "--output"

end OptionName

namespace Switch

/-- What a name behind two hyphens asks for. -/
def ofLong?
    (scope : Scope)
    (name : String) :
    Option Switch :=
  match name with
  | "help" => some .help
  | "version" => if scope = .tool then some .version else none
  | "config" => some (.option .settings)
  | "log-level" => some (.option .logLevel)
  | "output" => if scope = .format then some (.option .output) else none
  | _ => none

/-- What a letter behind one hyphen asks for. -/
def ofShort?
    (scope : Scope)
    (letter : Char) :
    Option Switch :=
  match letter with
  | 'h' => some .help
  | 'V' => if scope = .tool then some .version else none
  | 'c' => some (.option .settings)
  | 'o' => if scope = .format then some (.option .output) else none
  | _ => none

end Switch

namespace Argument

/-- The name and the value on the two sides of the first equals sign. -/
def splitValue
    (characters : List Char) :
    String × Option String :=
  let name := String.ofList (characters.takeWhile (· != '='))
  match characters.dropWhile (· != '=') with
  | [] => (name, none)
  | _ :: value => (name, some (String.ofList value))

/-- The value that is attached to a letter. -/
def attachedValue :
    List Char →
    Option String
  | [] => none
  | '=' :: value => some (String.ofList value)
  | value => some (String.ofList value)

/-- The form of an argument; a hyphen alone is an operand. -/
def ofText
    (text : String) :
    Argument :=
  match text.toList with
  | ['-', '-'] => .endOfOptions
  | '-' :: '-' :: rest =>
      let (name, value) := splitValue rest
      .long name value
  | '-' :: letter :: rest => .short letter (attachedValue rest)
  | _ => .operand

end Argument

end LevelScript.CommandLine
