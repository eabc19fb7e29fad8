import LevelScript.Proofs.Grammar.Trivia
import LevelScript.Proofs.Lexeme.LineEnds

namespace LevelScript

/-!
# Programs of lines with longer ends

Whether the lines of a source end with a line feed or with a carriage return and a line feed
makes no difference to what it says. The same statements are read, strings of several lines
included, or the same mistakes are found, at the places of the same characters.
-/

/-! ## Diagnostics at other places -/

/-- The diagnostic with every place it points at moved. -/
def Diagnostic.respan
    (move : Span → Span)
    (diagnostic : Diagnostic) :
    Diagnostic :=
  { diagnostic with
    labels := diagnostic.labels.map fun label => { label with span := move label.span } }

/-- The same diagnostics in the same order, with every place they point at moved. -/
def SyntaxError.respan
    (move : Span → Span)
    (error : SyntaxError) :
    SyntaxError where
  diagnostics := error.diagnostics.map (Diagnostic.respan move)

/-- A fault at another place is described there. -/
theorem LexicalFault.diagnostic_respan
    (move : Span → Span)
    {fault : Located LexicalFault}
    (notEnd : fault.value ≠ .unexpectedEnd) :
    diagnostic (fault.respan move) = (diagnostic fault).respan move := by
  have notEndThere : (fault.respan move).value ≠ .unexpectedEnd :=
    notEnd
  rw [diagnostic, shownSpan_eq notEndThere, diagnostic, shownSpan_eq notEnd]
  rfl

/-- A mistake at another place is described there, if the end of the source is moved along. -/
theorem Mistake.diagnostic_respan
    {move : Span → Span}
    {sourceEnd otherEnd : Nat}
    (atEnd : move (Span.point sourceEnd) = Span.point otherEnd)
    (mistake : Mistake) :
    (mistake.respan move).diagnostic otherEnd = (mistake.diagnostic sourceEnd).respan move := by
  obtain ⟨place, found⟩ := mistake
  cases found with
  | none =>
      simp [diagnostic, respan, Diagnostic.respan, atEnd]
  | some token =>
      simp [diagnostic, respan, Diagnostic.respan, Located.respan]

/-- Longer line ends keep the order of all places. -/
theorem Span.preservesUnion_withReturns
    (source : String) :
    PreservesUnion (withReturns source) := by
  intro first second
  have inOrder := Text.offsetWithReturns_mono source.toList
  simp only [withReturns, union, inOrder.map_min, inOrder.map_max]

namespace Program

/-! ## One source -/

section

variable {source : String}

/-- A source that is cut into tokens is read alike with longer line ends. -/
theorem parse_withReturns_of_tokenize
    (noReturn : '\r' ∉ source.toList)
    {tokens : List (Located Token)}
    (tokenized : Lexeme.tokenize source = .ok tokens) :
    parse (Text.withReturns source) =
      (respanOutcome (Span.withReturns source) (read .outside (significant tokens))).mapError
        fun mistake => ⟨[mistake.diagnostic (Text.withReturns source).utf8ByteSize]⟩ := by
  obtain ⟨others, otherTokenized, sameMeaning⟩ :=
    Lexeme.exists_tokenize_withReturns noReturn tokenized
  rw [parse_eq_of_tokenize otherTokenized, sameMeaning, Lexeme.endOffset_eq otherTokenized]
  exact
    congrArg (Except.mapError _)
      (read_respan (Span.preservesUnion_withReturns source) .outside (significant tokens))

/-- A program is the same program with longer line ends. -/
theorem parse_withReturns_of_ok
    (noReturn : '\r' ∉ source.toList)
    {statements : List (Located (Statement Float))}
    (parsed : parse source = .ok statements) :
    parse (Text.withReturns source) =
      .ok (statements.map (Located.respanStatement (Span.withReturns source))) := by
  obtain ⟨tokens, tokenized, accepted⟩ := parse_eq_ok_iff.1 parsed
  rw [parse_withReturns_of_tokenize noReturn tokenized, accepted]
  rfl

/-- What is no program has the same mistakes with longer line ends. -/
theorem parse_withReturns_of_error
    (noReturn : '\r' ∉ source.toList)
    {error : SyntaxError}
    (failed : parse source = .error error) :
    parse (Text.withReturns source) = .error (error.respan (Span.withReturns source)) := by
  cases tokenized : Lexeme.tokenize source with
  | error faults =>
      have otherTokenized := Lexeme.tokenize_withReturns_of_error noReturn tokenized
      have areFaults := (Lexeme.tokenize_eq_error_iff.1 tokenized).1
      have described :
          (faults.map (Located.respan (Span.withReturns source))).map LexicalFault.diagnostic =
            (faults.map LexicalFault.diagnostic).map
              (Diagnostic.respan (Span.withReturns source)) := by
        rw [List.map_map, List.map_map]
        refine List.map_congr_left fun fault member => ?_
        rw [← areFaults] at member
        exact LexicalFault.diagnostic_respan _ (Lexeme.ne_unexpectedEnd_of_mem_faults member)
      unfold parse parseTokens at failed ⊢
      rw [tokenized] at failed
      rw [otherTokenized]
      cases failed
      simp only [described, Except.map, SyntaxError.respan]
  | ok tokens =>
      rw [parse_eq_of_tokenize tokenized, Outcome.mapError_eq_error_iff,
        Lexeme.endOffset_eq tokenized] at failed
      obtain ⟨mistake, rejected, rfl⟩ := failed
      rw [parse_withReturns_of_tokenize noReturn tokenized, rejected]
      rw [SyntaxError.respan, List.map_singleton,
        ← Mistake.diagnostic_respan (Span.withReturns_point_end source)]
      rfl

/--
A source without carriage returns may get one in front of each of its line feeds. Each place of
the source is moved to behind the same characters. The longer source parses exactly if the source
does, to equal statements at the moved places. Otherwise it is answered with the same diagnostics
in the same order, of which only the places are moved.
-/
theorem parse_withReturns
    (noReturn : '\r' ∉ source.toList) :
    (∀ before after : String,
      source = before ++ after →
        Text.offsetWithReturns source.toList before.utf8ByteSize =
          (Text.withReturns before).utf8ByteSize) ∧
      ((∃ reread, parse (Text.withReturns source) = .ok reread) ↔
        ∃ statements, parse source = .ok statements) ∧
      (∀ statements,
        parse source = .ok statements →
          ∃ reread,
            parse (Text.withReturns source) = .ok reread ∧
              reread = statements.map (Located.respanStatement (Span.withReturns source)) ∧
              (statements == reread) = true) ∧
      ∀ error,
        parse source = .error error →
          parse (Text.withReturns source) = .error (error.respan (Span.withReturns source)) := by
  refine ⟨?moves, ⟨?parsesBack, ?parses⟩, ?same, fun _ => parse_withReturns_of_error noReturn⟩
  case moves =>
    rintro before after rfl
    rw [String.toList_append, ← Text.byteWidth_toList, Text.offsetWithReturns_append,
      Text.withReturns, Text.utf8ByteSize_ofList]
  case parsesBack =>
    rintro ⟨reread, parsedToo⟩
    cases parsed : parse source with
    | ok statements =>
        exact ⟨statements, rfl⟩
    | error error =>
        rw [parse_withReturns_of_error noReturn parsed] at parsedToo
        cases parsedToo
  case parses =>
    rintro ⟨statements, parsed⟩
    exact ⟨_, parse_withReturns_of_ok noReturn parsed⟩
  case same =>
    intro statements parsed
    refine ⟨_, parse_withReturns_of_ok noReturn parsed, rfl, ?_⟩
    refine beq_of_unplaced ?_ fun _ => isWritable_of_parse parsed
    simp [unplaced, Located.respanStatement, Function.comp_def]

end

/-- A string goes on over a line end, and a string that is left open is still found behind one. -/
theorem parse_withReturns_strings :
    ∃ statements reread,
      parse "let a be// \n B([1\n2])" = .ok statements ∧
        parse "let a be// \r\n B([1\r\n2])" = .ok reread ∧
        (statements == reread) = true ∧
        parse "#\n[\n" =
          .error ⟨[LexicalFault.diagnostic ⟨.strayCharacter '#', ⟨0, 1, by omega⟩⟩,
            LexicalFault.diagnostic ⟨.unclosedString, ⟨2, 4, by omega⟩⟩]⟩ ∧
        parse "#\r\n[\r\n" =
          .error ⟨[LexicalFault.diagnostic ⟨.strayCharacter '#', ⟨0, 1, by omega⟩⟩,
            LexicalFault.diagnostic ⟨.unclosedString, ⟨3, 6, by omega⟩⟩]⟩ := by
  have noReturn : '\r' ∉ "let a be// \n B([1\n2])".toList := by
    decide
  have noReturnToo : '\r' ∉ "#\n[\n".toList := by
    decide
  have parsed :
      parse "let a be// \n B([1\n2])" =
        .ok
          [⟨.declaration ⟨⟨"a"⟩, ⟨4, 5, by omega⟩⟩ ⟨⟨"B"⟩, ⟨13, 14, by omega⟩⟩
              [⟨.string "1\n2", ⟨15, 20, by omega⟩⟩],
            ⟨4, 21, by omega⟩⟩] := by
    decide +kernel
  have failed :
      parse "#\n[\n" =
        .error ⟨[LexicalFault.diagnostic ⟨.strayCharacter '#', ⟨0, 1, by omega⟩⟩,
          LexicalFault.diagnostic ⟨.unclosedString, ⟨2, 4, by omega⟩⟩]⟩ := by
    decide +kernel
  obtain ⟨reread, parsedToo, _, same⟩ := (parse_withReturns noReturn).2.2.1 _ parsed
  have failedToo := (parse_withReturns noReturnToo).2.2.2 _ failed
  exact ⟨_, reread, parsed, parsedToo, same, failed, failedToo⟩

end Program

end LevelScript
