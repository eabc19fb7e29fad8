import LevelScript.Proofs.Canonical.Equality
import LevelScript.Proofs.Canonical.Parsed
import LevelScript.Proofs.Lexeme.Trivia

namespace LevelScript

/-!
# Trivia in a program

White space and comments may stand between any two tokens of a program, before the first one and
after the last one. They change neither the statements nor the mistake that is reported, apart
from the places, which are those of the longer source.
-/

/-- The diagnostic without the places it points at. -/
def Diagnostic.unplaced
    (diagnostic : Diagnostic) :
    Diagnostic :=
  { diagnostic with
    labels := diagnostic.labels.map fun label => { label with span := Span.origin } }

/-! ## Mistakes at other places -/

namespace Place

variable {move : Span → Span}

@[simp] theorem expected_respan
    (place : Place) :
    (place.respan move).expected = place.expected := by
  cases place with
  | opened kind =>
      cases kind <;> rfl
  | _ =>
      rfl

@[simp] theorem within?_respan
    (place : Place) :
    (place.respan move).within? = place.within? := by
  cases place <;> rfl

end Place

/-- A mistake is described alike wherever it is found. -/
theorem Mistake.unplaced_diagnostic_respan
    (move : Span → Span)
    (mistake : Mistake)
    (sourceEnd otherEnd : Nat) :
    ((mistake.respan move).diagnostic otherEnd).unplaced =
      (mistake.diagnostic sourceEnd).unplaced := by
  obtain ⟨place, found⟩ := mistake
  cases found <;>
    simp [diagnostic, Diagnostic.unplaced, respan, Located.respan]

/-- Mistakes that differ in their places only are described alike. -/
theorem Mistake.unplaced_diagnostic_congr
    {mistake other : Mistake}
    (same : other.respan (fun _ => Span.origin) = mistake.respan fun _ => Span.origin)
    (sourceEnd otherEnd : Nat) :
    (other.diagnostic otherEnd).unplaced = (mistake.diagnostic sourceEnd).unplaced := by
  rw [← unplaced_diagnostic_respan (fun _ => Span.origin) other otherEnd 0, same,
    unplaced_diagnostic_respan (fun _ => Span.origin) mistake sourceEnd]

namespace Program

/-! ## Sources with the same significant tokens -/

section Values

variable {source longer : String} {tokens others : List (Located Token)}

/-- A source with the significant tokens of a program is the same program. -/
theorem exists_parse_of_values
    (tokenized : Lexeme.tokenize source = .ok tokens)
    (otherTokenized : Lexeme.tokenize longer = .ok others)
    (sameValues :
      (significant others).map Located.value = (significant tokens).map Located.value)
    {statements : List (Located (Statement Float))}
    (parsed : parse source = .ok statements) :
    ∃ reread, parse longer = .ok reread ∧ unplaced reread = unplaced statements := by
  rw [parse_eq_of_tokenize tokenized, Outcome.mapError_eq_ok_iff] at parsed
  obtain ⟨reread, accepted, same⟩ := exists_read_of_values sameValues parsed
  exact ⟨reread, parse_eq_ok_iff.2 ⟨others, otherTokenized, accepted⟩, same⟩

/-- A source with the significant tokens of no program holds the same mistake. -/
theorem exists_syntaxError_of_values
    (tokenized : Lexeme.tokenize source = .ok tokens)
    (otherTokenized : Lexeme.tokenize longer = .ok others)
    (sameValues :
      (significant others).map Located.value = (significant tokens).map Located.value)
    {error : SyntaxError}
    (failed : parse source = .error error) :
    ∃ other,
      parse longer = .error other ∧
        other.diagnostics.map Diagnostic.unplaced =
          error.diagnostics.map Diagnostic.unplaced := by
  rw [parse_eq_of_tokenize tokenized, Outcome.mapError_eq_error_iff] at failed
  obtain ⟨mistake, rejected, rfl⟩ := failed
  obtain ⟨other, rejectedToo, same⟩ := exists_mistake_of_values sameValues rejected
  refine ⟨⟨[other.diagnostic (endOffset others)]⟩, ?_, ?_⟩
  · rw [parse_eq_of_tokenize otherTokenized, rejectedToo]
    rfl
  · exact congrArg ([·]) (Mistake.unplaced_diagnostic_congr same _ _)

end Values

/--
A text of trivia that does not end in a line comment may be put in wherever some of the tokens
of a source stop, except behind a line comment. The longer source has the same significant
tokens. If the source parses, then the longer one parses to equal statements; if not, then its
mistake is described in the same words, under the same code and with the same help.
-/
theorem parse_insertTrivia
    {before text after : String}
    {left trivia right : List (Located Token)}
    (tokenized : Lexeme.tokenize (before ++ after) = .ok (left ++ right))
    (boundary : endOffset left = before.utf8ByteSize)
    (notInComment : ¬Lexeme.EndsInLineComment (left.map Located.value))
    (isText : Lexeme.tokenize text = .ok trivia)
    (allTrivia : ∀ token ∈ trivia, token.value.isTrivia = true)
    (closed : ¬Lexeme.EndsInLineComment (trivia.map Located.value)) :
    (∃ tokens,
      Lexeme.tokenize (before ++ text ++ after) = .ok tokens ∧
        (significant tokens).map Located.value =
          (significant (left ++ right)).map Located.value) ∧
      (∀ statements,
        parse (before ++ after) = .ok statements →
          ∃ reread,
            parse (before ++ text ++ after) = .ok reread ∧
              unplaced reread = unplaced statements ∧ (statements == reread) = true) ∧
      ∀ error,
        parse (before ++ after) = .error error →
          ∃ other,
            parse (before ++ text ++ after) = .error other ∧
              other.diagnostics.map Diagnostic.unplaced =
                error.diagnostics.map Diagnostic.unplaced := by
  obtain ⟨tokens, longerTokenized, sameValues⟩ :=
    Lexeme.exists_tokenize_insert tokenized boundary notInComment isText allTrivia closed
  refine ⟨⟨tokens, longerTokenized, sameValues⟩, ?parses, ?fails⟩
  case parses =>
    intro statements parsed
    obtain ⟨reread, parsedToo, same⟩ :=
      exists_parse_of_values tokenized longerTokenized sameValues parsed
    have writable : ∀ statement ∈ statements, statement.value.IsWritable :=
      fun _ => isWritable_of_parse parsed
    exact ⟨reread, parsedToo, same, beq_of_unplaced same.symm writable⟩
  case fails =>
    intro error failed
    exact exists_syntaxError_of_values tokenized longerTokenized sameValues failed

/-- A dotted name goes on behind an em space, a line comment and a line feed. -/
theorem parse_insertTrivia_lineComment :
    ∃ left trivia right statements reread,
      Lexeme.tokenize ("using é as B" ++ ".C") = .ok (left ++ right) ∧
        endOffset left = "using é as B".utf8ByteSize ∧
        ¬Lexeme.EndsInLineComment (left.map Located.value) ∧
        Lexeme.tokenize "\u2003//]\n" = .ok trivia ∧
        (∀ token ∈ trivia, token.value.isTrivia = true) ∧
        ¬Lexeme.EndsInLineComment (trivia.map Located.value) ∧
        parse ("using é as B" ++ ".C") = .ok statements ∧
        parse ("using é as B" ++ "\u2003//]\n" ++ ".C") = .ok reread ∧
        unplaced reread = unplaced statements ∧
        (statements == reread) = true := by
  have tokenized :
      Lexeme.tokenize ("using é as B" ++ ".C") =
        .ok
          ([⟨.keyword .usingWord, ⟨0, 5, by omega⟩⟩, ⟨.blank, ⟨5, 6, by omega⟩⟩,
            ⟨.identifier "é", ⟨6, 8, by omega⟩⟩, ⟨.blank, ⟨8, 9, by omega⟩⟩,
            ⟨.keyword .asWord, ⟨9, 11, by omega⟩⟩, ⟨.blank, ⟨11, 12, by omega⟩⟩,
            ⟨.identifier "B", ⟨12, 13, by omega⟩⟩] ++
          [⟨.dot, ⟨13, 14, by omega⟩⟩, ⟨.identifier "C", ⟨14, 15, by omega⟩⟩]) := by
    decide +kernel
  have isText :
      Lexeme.tokenize "\u2003//]\n" =
        .ok
          [⟨.blank, ⟨0, 3, by omega⟩⟩, ⟨.lineComment "]", ⟨3, 6, by omega⟩⟩,
            ⟨.lineEnd, ⟨6, 7, by omega⟩⟩] := by
    decide +kernel
  have parsed :
      parse ("using é as B" ++ ".C") =
        .ok
          [⟨.abbreviation ⟨⟨"é"⟩, ⟨6, 8, by omega⟩⟩ ⟨⟨"B.C"⟩, ⟨12, 15, by omega⟩⟩,
            ⟨6, 15, by omega⟩⟩] := by
    decide +kernel
  have boundary :
      endOffset
          [⟨.keyword .usingWord, ⟨0, 5, by omega⟩⟩, ⟨.blank, ⟨5, 6, by omega⟩⟩,
            ⟨.identifier "é", ⟨6, 8, by omega⟩⟩, ⟨.blank, ⟨8, 9, by omega⟩⟩,
            ⟨.keyword .asWord, ⟨9, 11, by omega⟩⟩, ⟨.blank, ⟨11, 12, by omega⟩⟩,
            ⟨.identifier "B", ⟨12, 13, by omega⟩⟩] =
        "using é as B".utf8ByteSize := by
    decide
  have notInComment : ¬Lexeme.EndsInLineComment
      [.keyword .usingWord, .blank, .identifier "é", .blank, .keyword .asWord, .blank,
        .identifier "B"] := by
    simp [Lexeme.EndsInLineComment]
  have closed : ¬Lexeme.EndsInLineComment [.blank, .lineComment "]", .lineEnd] := by
    simp [Lexeme.EndsInLineComment]
  have allTrivia : ∀ token ∈
      ([⟨.blank, ⟨0, 3, by omega⟩⟩, ⟨.lineComment "]", ⟨3, 6, by omega⟩⟩,
        ⟨.lineEnd, ⟨6, 7, by omega⟩⟩] : List (Located Token)), token.value.isTrivia = true := by
    simp [Token.isTrivia]
  obtain ⟨reread, parsedToo, same⟩ :=
    (parse_insertTrivia tokenized boundary notInComment isText allTrivia closed).2.1 _ parsed
  exact
    ⟨_, _, _, _, reread, tokenized, boundary, notInComment, isText, allTrivia, closed, parsed,
      parsedToo, same⟩

end Program

end LevelScript
