import LevelScript.Proofs.Lexeme.Split

namespace LevelScript

/-!
# Tokens of a source

Not every token can be cut from a source: its numbers are finite, its strings hold neither
closing brackets nor carriage returns, and its identifiers are no reserved words. These are
the tokens that have a spelling.
-/

/-- The token has a spelling. -/
def Token.IsWritable :
    Token →
    Prop
  | .string text => text.toList.any Canonical.isUnrepresentable = false
  | .number value => value.isFinite = true
  | .identifier name => Word.isIdentifier name = true
  | _ => True

namespace Lexeme

/-- The token of a lexeme has a spelling. -/
theorem Shape.isWritable_token
    {shape : Shape}
    (isLexeme : shape.IsLexeme) :
    shape.token.IsWritable := by
  cases shape with
  | identifier name =>
      exact isLexeme.1
  | number negative whole fraction =>
      exact isLexeme.2 _ rfl
  | string body =>
      have notClosed : ']' ∉ body :=
        isLexeme.1
      rw [Shape.token_string]
      change (String.ofList (unifyLineEnds body)).toList.any _ = false
      rw [String.toList_ofList, List.any_eq_false]
      intro character member
      have noReturn : character ≠ '\r' := by
        rintro rfl
        exact not_mem_unifyLineEnds body member
      have noBracket : character ≠ ']' := by
        rintro rfl
        exact notClosed (mem_of_mem_unifyLineEnds (by decide) member)
      simp [Canonical.isUnrepresentable, noReturn, noBracket]
  | _ =>
      exact True.intro

/-- The tokens of a source can be written again. -/
theorem isWritable_of_tokenize
    {source : String}
    {tokens : List (Located Token)}
    (tokenized : tokenize source = .ok tokens)
    {token : Located Token}
    (member : token ∈ tokens) :
    token.value.IsWritable := by
  obtain ⟨shapes, split, rfl⟩ := exists_split_of_tokenize tokenized
  have isValue := List.mem_map_of_mem (f := Located.value) member
  rw [Shape.map_value_located] at isValue
  obtain ⟨shape, isShape, tokenIs⟩ := List.mem_map.1 isValue
  rw [← tokenIs]
  exact Shape.isWritable_token (split.isLexeme_of_mem isShape)

end Lexeme

end LevelScript
