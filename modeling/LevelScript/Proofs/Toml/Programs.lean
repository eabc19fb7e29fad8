import LevelScript.Proofs.Grammar.Soundness
import LevelScript.Proofs.Lexeme.LineEnds
import LevelScript.Proofs.Lexeme.Words
import LevelScript.Toml.Document

namespace LevelScript

/-!
# Documents that are programs

A file may hold the settings of the tool and a level, but then the level is empty. A statement
starts with a reserved word and a name, and this word would be a key of the document, which an
equals sign or a dot has to follow.
-/

namespace Lexeme

open Text (byteWidth isLetter)

/-! ## What a text tells first -/

/-- The first faults or tokens with meaning that a text tells, wherever the text stands. -/
def TellsFirst
    (outcomes : List (Except LexicalFault Token))
    (characters : List Char) :
    Prop :=
  ∃ offset, outcomes <+: (telling offset characters).map Located.value

/-- A character that can start a blank or a comment. -/
def startsTrivia
    (character : Char) :
    Bool :=
  isInlineBlank character || character = '\n' || character = '/'

section Telling

variable {outcome : Except LexicalFault Token} {outcomes : List (Except LexicalFault Token)}
  {first : Char} {rest taken after : List Char} {token : Token}

/-- Only blanks and comments are passed over, and their first characters show them. -/
theorem startsTrivia_of_cut
    (cutIs : cut first rest = ⟨.ok token, taken, after⟩)
    (isTrivia : token.isTrivia = true) :
    startsTrivia first = true := by
  obtain ⟨shape, wellFormed, outcome, text, _⟩ := exists_shape_of_cut cutIs
  have isToken := Shape.token_of_outcome outcome
  have whole := cut_taken_append_rest first rest
  rw [cutIs, ← text] at whole
  subst isToken
  cases shape with
  | blank run =>
      obtain ⟨nonempty, blanks⟩ := wellFormed
      obtain ⟨blank, more, rfl⟩ := List.exists_cons_of_ne_nil nonempty
      obtain ⟨rfl, _⟩ := List.cons.inj whole
      simp [startsTrivia, blanks blank List.mem_cons_self]
  | lineEnd =>
      obtain ⟨rfl, _⟩ := List.cons.inj whole
      decide
  | lineComment body =>
      obtain ⟨rfl, _⟩ := List.cons.inj whole
      decide
  | blockComment body =>
      obtain ⟨rfl, _⟩ := List.cons.inj whole
      decide
  | _ =>
      cases isTrivia

/-- What starts no blank and no comment is told. -/
theorem TellsFirst.outcome_eq
    (tells : TellsFirst (outcome :: outcomes) (first :: rest))
    (noTrivia : startsTrivia first = false) :
    (cut first rest).outcome = outcome ∧ TellsFirst outcomes (cut first rest).rest := by
  obtain ⟨offset, begins⟩ := tells
  obtain ⟨found, taken, after, cutIs⟩ : ∃ found taken after,
      cut first rest = ⟨found, taken, after⟩ :=
    ⟨_, _, _, rfl⟩
  have isTold : counts ⟨found, Span.ofWidth offset (byteWidth taken)⟩ = true := by
    cases found with
    | ok token =>
        unfold counts
        dsimp only
        rw [Bool.not_eq_true', Bool.eq_false_iff]
        intro isTrivia
        rw [startsTrivia_of_cut cutIs isTrivia] at noTrivia
        cases noTrivia
    | error fault =>
        rfl
  rw [telling_cons cutIs, List.filter_singleton, isTold, cond_true, List.map_append,
    List.map_singleton, List.singleton_append, List.cons_prefix_cons] at begins
  rw [cutIs]
  exact ⟨begins.1.symm, _, begins.2⟩

/-- A reserved word or a name that is told first starts with a letter. -/
theorem TellsFirst.isLetter
    (isWord : (∃ word, outcome = .ok (.keyword word)) ∨ ∃ name, outcome = .ok (.identifier name))
    (tells : TellsFirst (outcome :: outcomes) (first :: rest))
    (noTrivia : startsTrivia first = false) :
    isLetter first = true := by
  have isOutcome := (tells.outcome_eq noTrivia).1
  have cutIs : cut first rest = ⟨outcome, (cut first rest).taken, (cut first rest).rest⟩ := by
    rw [← isOutcome]
  have whole := cut_taken_append_rest first rest
  rcases isWord with ⟨word, rfl⟩ | ⟨name, rfl⟩
  · obtain ⟨initial, more, text, letter, _⟩ := exists_of_keyword word
    rw [(cut_eq_keyword_iff.1 cutIs).1, text] at whole
    obtain ⟨rfl, _⟩ := List.cons.inj whole
    exact letter
  · obtain ⟨shape, wellFormed, isToken, text, _⟩ := exists_shape_of_cut cutIs
    have token := Shape.token_of_outcome isToken
    cases shape with
    | identifier spelled =>
        cases token
        obtain ⟨initial, more, parts, letter, _⟩ := exists_of_isIdentifier wellFormed
        rw [← text, Shape.text, parts] at whole
        obtain ⟨rfl, _⟩ := List.cons.inj whole
        exact letter
    | _ =>
        cases token

end Telling

end Lexeme

namespace Toml

open Lexeme

/-! ## Documents -/

section Readers

variable {word : Keyword} {name : String} {characters : List Char}

end Readers

end Toml

/-! ## Programs -/

namespace Program

end Program

end LevelScript
