import LevelScript.Main
import LevelScript.Proofs.Canonical.Equality
import LevelScript.Proofs.Canonical.NormalForm
import LevelScript.Proofs.Canonical.Parsed
import LevelScript.Proofs.Canonical.ReadBack
import LevelScript.Proofs.Canonical.RoundTrip
import LevelScript.Proofs.Canonical.Writable
import LevelScript.Proofs.Construction.Agreement
import LevelScript.Proofs.Construction.Failure
import LevelScript.Proofs.Construction.History
import LevelScript.Proofs.Construction.Overloads
import LevelScript.Proofs.Construction.Resolution
import LevelScript.Proofs.Construction.Schema
import LevelScript.Proofs.Decimal.Encoding
import LevelScript.Proofs.Decimal.Exact
import LevelScript.Proofs.Decimal.Interval
import LevelScript.Proofs.Decimal.Nearest
import LevelScript.Proofs.Decimal.ReadBack
import LevelScript.Proofs.Decimal.Rounding
import LevelScript.Proofs.Decimal.Shortness
import LevelScript.Proofs.Geometry.Mating
import LevelScript.Proofs.Geometry.Matrix
import LevelScript.Proofs.Geometry.Pose
import LevelScript.Proofs.Geometry.Translation
import LevelScript.Proofs.Grammar.Completeness
import LevelScript.Proofs.Grammar.Completion
import LevelScript.Proofs.Grammar.Derivation
import LevelScript.Proofs.Grammar.Diagnostics
import LevelScript.Proofs.Grammar.Joining
import LevelScript.Proofs.Grammar.LineEnds
import LevelScript.Proofs.Grammar.Mistakes
import LevelScript.Proofs.Grammar.Respan
import LevelScript.Proofs.Grammar.Slices
import LevelScript.Proofs.Grammar.Soundness
import LevelScript.Proofs.Grammar.Spans
import LevelScript.Proofs.Grammar.Trivia
import LevelScript.Proofs.Grammar.Uniqueness
import LevelScript.Proofs.Lexeme.Joining
import LevelScript.Proofs.Lexeme.LineEnds
import LevelScript.Proofs.Lexeme.Numbers
import LevelScript.Proofs.Lexeme.Reading
import LevelScript.Proofs.Lexeme.Recovery
import LevelScript.Proofs.Lexeme.Shape
import LevelScript.Proofs.Lexeme.Slices
import LevelScript.Proofs.Lexeme.Spelling
import LevelScript.Proofs.Lexeme.Trivia
import LevelScript.Proofs.Lexeme.Words
import LevelScript.Proofs.Lexeme.Writable
import LevelScript.Proofs.Loader.Failure
import LevelScript.Proofs.Loader.Formatting
import LevelScript.Proofs.Loader.Sources
import LevelScript.Proofs.Name.Segments
import LevelScript.Proofs.Outcome
import LevelScript.Proofs.Session.Abbreviations
import LevelScript.Proofs.Session.Accounting
import LevelScript.Proofs.Session.Coordinates
import LevelScript.Proofs.Session.Correspondence
import LevelScript.Proofs.Session.Effect
import LevelScript.Proofs.Session.Failure
import LevelScript.Proofs.Session.Independence
import LevelScript.Proofs.Session.Log
import LevelScript.Proofs.Session.Mating
import LevelScript.Proofs.Session.MutualMating
import LevelScript.Proofs.Session.NameTable
import LevelScript.Proofs.Session.Overwriting
import LevelScript.Proofs.Session.Plan
import LevelScript.Proofs.Session.Redeclaration
import LevelScript.Proofs.Session.Rehearsal
import LevelScript.Proofs.Session.Rigidity
import LevelScript.Proofs.Session.Shadowing
import LevelScript.Proofs.Session.Translation
import LevelScript.Proofs.Settings.Files
import LevelScript.Proofs.Table.Connectors
import LevelScript.Proofs.Table.History
import LevelScript.Proofs.Text.Classes
import LevelScript.Proofs.Text.LineEnds
import LevelScript.Proofs.Text.Slices
import LevelScript.Proofs.Toml.Programs
import LevelScript.Proofs.Tool.Files
import LevelScript.Proofs.Tool.Formatting
import LevelScript.Proofs.Tool.Printing
