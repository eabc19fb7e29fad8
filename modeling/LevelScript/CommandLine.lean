import LevelScript.CommandLine.Argument
import LevelScript.Invocation

namespace LevelScript

/-!
# The command line

The command line names a command and its operand, with options in front of the command
word or behind it. An option given behind the command word wins over one in front of it,
but in each of the two places it may stand only once.
-/

namespace CommandLine

/-- Why a command line does not start a run. -/
inductive UsageError where
  /-- It asks for help. -/
  | help
  /-- It asks for the version. -/
  | version
  /-- It gives no command and no options. -/
  | empty
  | missingCommand
  | unknownCommand (word : String)
  | unknownArgument (text : String)
  | missingValue (name : OptionName)
  /-- A value is attached to what takes none. -/
  | unexpectedValue (text : String)
  | repeatedOption (name : OptionName)
  /-- The command has no level to work on. -/
  | missingInput
deriving Repr, DecidableEq

/-- The words that stand for commands. -/
inductive CommandWord where
  | check
  | format
  | help
deriving Repr, DecidableEq

/-- An option whose value may still follow. -/
structure Pending where
  name : OptionName
  value : Option String
deriving Repr, DecidableEq

/-- What has been given so far in one of the two places. -/
structure Given where
  settings : Option String := none
  logLevel : Option String := none
  output : Option String := none
  input : Option String := none
  /-- The last option, which is not settled before something else follows. -/
  pending : Option Pending := none
deriving Repr, DecidableEq

namespace UsageError

/-- The message of an error. -/
def message :
    UsageError →
    String
  | .help => "usage: check INPUT, or fmt INPUT, with --config, --log-level and --output"
  | .version => "version 1"
  | .empty => "a command is needed: check or fmt"
  | .missingCommand => "a command is needed: check or fmt"
  | .unknownCommand word => "unknown command " ++ word
  | .unknownArgument text => "unexpected argument " ++ text
  | .missingValue name => "a value is needed for " ++ name.text
  | .unexpectedValue text => "no value is allowed in " ++ text
  | .repeatedOption name => name.text ++ " cannot be used more than once"
  | .missingInput => "the path of a level is needed"

end UsageError

namespace CommandWord

/-- The command that a word stands for. -/
def ofText? :
    String →
    Option CommandWord
  | "check" => some .check
  | "fmt" => some .format
  | "help" => some .help
  | _ => none

end CommandWord

namespace Given

/-- The value of an option. -/
def get?
    (given : Given) :
    OptionName →
    Option String
  | .settings => given.settings
  | .logLevel => given.logLevel
  | .output => given.output

/-- The value of an option is set. -/
def put
    (given : Given)
    (name : OptionName)
    (value : String) :
    Given :=
  match name with
  | .settings => { given with settings := some value }
  | .logLevel => { given with logLevel := some value }
  | .output => { given with output := some value }

/-- The value of an option is set for the first time. -/
def assign
    (given : Given)
    (name : OptionName)
    (value : String) :
    Except UsageError Given :=
  match given.get? name with
  | none => .ok (given.put name value)
  | some _ => .error (.repeatedOption name)

/-- Nothing more belongs to the last option. -/
def settle
    (given : Given) :
    Except UsageError Given :=
  match given.pending with
  | none => .ok given
  | some ⟨name, none⟩ => .error (.missingValue name)
  | some ⟨name, some value⟩ => { given with pending := none }.assign name value

/-- The last option still needs its value. -/
def waits
    (given : Given) :
    Bool :=
  given.pending.any fun pending => pending.value.isNone

/-- The value of the last option is given. -/
def supply
    (given : Given)
    (value : String) :
    Given :=
  { given with pending := given.pending.map fun pending => ⟨pending.name, some value⟩ }

/-- What a name behind hyphens asks for is done. -/
def apply
    (given : Given)
    (switch : Switch)
    (value : Option String) :
    Except UsageError Given := do
  let settled ← given.settle
  match switch, value with
  | .help, _ => throw .help
  | .version, _ => throw .version
  | .option name, some value => settled.assign name value
  | .option name, none => return { settled with pending := some ⟨name, none⟩ }

/-- An argument with two hyphens is read. -/
def applyLong
    (given : Given)
    (scope : Scope)
    (text name : String)
    (value : Option String) :
    Except UsageError Given :=
  match Switch.ofLong? scope name with
  | none => .error (.unknownArgument text)
  | some (.option option) => given.apply (.option option) value
  | some switch =>
      if value.isSome then
        .error (.unexpectedValue text)
      else
        given.apply switch none

/-- An argument with one hyphen is read. -/
def applyShort
    (given : Given)
    (scope : Scope)
    (text : String)
    (letter : Char)
    (value : Option String) :
    Except UsageError Given :=
  match Switch.ofShort? scope letter with
  | none => .error (.unknownArgument text)
  | some switch => given.apply switch value

/-- The one operand of a command is given. -/
def takeInput
    (given : Given)
    (text : String) :
    Except UsageError Given :=
  match given.input with
  | some _ => .error (.unknownArgument text)
  | none => do return { ← given.settle with input := some text }

end Given

/-- The arguments behind the end of options. -/
def readOperands
    (given : Given)
    (arguments : List String) :
    Except UsageError Given := do
  (← arguments.foldlM Given.takeInput given).settle

/-- The arguments behind a command word. -/
def readArguments
    (scope : Scope)
    (given : Given) :
    List String →
    Except UsageError Given
  | [] => given.settle
  | text :: rest =>
      match Argument.ofText text with
      | .endOfOptions => readOperands given rest
      | .long name value => do
          readArguments scope (← given.applyLong scope text name value) rest
      | .short letter value => do
          readArguments scope (← given.applyShort scope text letter value) rest
      | .operand => do
          if given.waits then
            readArguments scope (given.supply text) rest
          else
            readArguments scope (← given.takeInput text) rest

/-- The operand of a command. -/
def requireInput
    (given : Given) :
    Except UsageError String :=
  match given.input with
  | none => .error .missingInput
  | some input => .ok input

/-- The invocation of a command with options in front of its word and behind it. -/
def invocation
    (front behind : Given)
    (command : Command) :
    Invocation where
  command
  settingsPath := behind.settings <|> front.settings
  logLevel := (behind.logLevel <|> front.logLevel).getD "info"

/-- The arguments behind the word that asks for help. -/
def readHelp :
    List String →
    UsageError
  | [] => .help
  | word :: rest =>
      match CommandWord.ofText? word, rest with
      | none, _ => .unknownCommand word
      | some _, [] => .help
      | some _, next :: _ => .unknownCommand next

/-- A command word with the arguments behind it. -/
def readCommand
    (front : Given)
    (word : CommandWord)
    (arguments : List String) :
    Except UsageError Invocation := do
  match word with
  | .check =>
      let behind ← readArguments .check {} arguments
      let input ← requireInput behind
      return invocation (← front.settle) behind (.check input)
  | .format =>
      let behind ← readArguments .format {} arguments
      let input ← requireInput behind
      return invocation (← front.settle) behind (.format input behind.output)
  | .help => throw (readHelp arguments)

/-- There is no command word. -/
def refuseMissingCommand
    (front : Given) :
    Except UsageError Invocation := do
  let settled ← front.settle
  if settled.settings.isNone && settled.logLevel.isNone then
    throw .empty
  else
    throw .missingCommand

/-- What stands behind the end of options in front of any command word is refused. -/
def refuseOperands
    (front : Given) :
    List String →
    Except UsageError Invocation
  | [] => refuseMissingCommand front
  | text :: _ =>
      match CommandWord.ofText? text with
      | some _ => .error (.unknownArgument text)
      | none => .error (.unknownCommand text)

/-- The arguments of the tool from the first one that is not read yet. -/
def readTool
    (front : Given) :
    List String →
    Except UsageError Invocation
  | [] => refuseMissingCommand front
  | text :: rest =>
      match Argument.ofText text with
      | .endOfOptions => refuseOperands front rest
      | .long name value => do
          readTool (← front.applyLong .tool text name value) rest
      | .short letter value => do
          readTool (← front.applyShort .tool text letter value) rest
      | .operand =>
          if front.waits then
            readTool (front.supply text) rest
          else
            match CommandWord.ofText? text with
            | some word => readCommand front word rest
            | none => .error (.unknownCommand text)

/-- The invocation that the arguments of the tool ask for. -/
def parse
    (arguments : List String) :
    Except UsageError Invocation :=
  readTool {} arguments

end CommandLine

end LevelScript
