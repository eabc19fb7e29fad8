import LevelScript.Disk
import LevelScript.Grammar.Program
import LevelScript.Session

namespace LevelScript

/-!
# Loading levels

A loader reads, parses and runs levels with one registry and one policy. Every load
starts afresh. The three ways to fail are kept apart: the file cannot be read, its text
is no program, or a statement of the program fails.
-/

/-- Why a level cannot be loaded, with the source that the error points into. -/
inductive LevelError where
  | io (fault : IoFault)
  | parse (error : SyntaxError) (source : String)
  | load (error : LoadError) (source : String)

/-- The registry and the policy with which levels are loaded. -/
structure Loader where
  registry : Registry Float
  policy : RedeclarationPolicy := .allow

/-- A computation on levels that may stop with any of the errors. -/
abbrev LevelLoading (β : Type) := Logged (Event Float) LevelError β

namespace LevelError

/-- The message of an error. -/
def message :
    LevelError →
    String
  | .io fault => "I/O error: " ++ fault.message
  | .parse error _ => error.display
  | .load error _ => error.message

end LevelError

namespace Program

/-- The text of the level at a path. -/
def readSource
    (disk : Disk)
    (path : String) :
    LevelLoading String := do
  Logged.emit (.readingLevel path)
  Logged.ofExcept ((disk.readText path).mapError .io)

/-- The statements of a source text, with a log of how they were read. -/
def ofSource
    (source : String) :
    LevelLoading (List (Located (Statement Float))) := do
  Logged.emit .parsingLevel
  let parsed ← Logged.ofExcept ((parseTokens source).mapError (.parse · source))
  Logged.emit (.parsedSource parsed.tokenCount parsed.statements.length)
  Logged.emit (.parsedLevel parsed.statements.length)
  return parsed.statements

/-- The statements of the level at a path. -/
def ofFile
    (disk : Disk)
    (path : String) :
    LevelLoading (List (Located (Statement Float))) := do
  let source ← readSource disk path
  ofSource source

end Program

namespace Loader

/-- The level that statements describe. -/
def runStatements
    (loader : Loader)
    (statements : List (Located (Statement Float))) :
    Loading Float (Level Float) :=
  Level.ofStatements loader.registry loader.policy statements

/-- The level that a source text describes. -/
def loadSource
    (loader : Loader)
    (source : String) :
    LevelLoading (Level Float) := do
  let statements ← Program.ofSource source
  (loader.runStatements statements).mapError (.load · source)

/-- The level at a path. -/
def loadFile
    (loader : Loader)
    (disk : Disk)
    (path : String) :
    LevelLoading (Level Float) := do
  let source ← Program.readSource disk path
  loader.loadSource source

end Loader

end LevelScript
