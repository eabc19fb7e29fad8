import LevelScript.Proofs.Grammar.Soundness
import LevelScript.Proofs.Lexeme.Joining

namespace LevelScript

/-!
# Sources one after the other

A program may end wherever a source does, and the next one starts with a keyword that goes on
with nothing before it. So two sources on lines of their own are one source, which has the
statements of both: those of the first one where they were, and those of the second one moved
by what stands before it.
-/

/-- A distance is added to both ends, so what covers two spans is moved along with them. -/
theorem Span.preservesUnion_shift
    (distance : Nat) :
    PreservesUnion (shift distance) := by
  intro first second
  simp only [shift, union, Span.mk.injEq]
  omega

namespace Program

/-- Two programs in a row are a program with the statements of both. -/
theorem read_append
    {tokens others : List (Located Token)}
    {statements further : List (Located (Statement Float))}
    (accepted : read .outside tokens = .ok statements)
    (otherAccepted : read .outside others = .ok further) :
    read .outside (tokens ++ others) = .ok (statements ++ further) := by
  obtain ⟨program, rfl, rfl⟩ := ProgramTree.exists_of_read accepted
  obtain ⟨other, rfl, rfl⟩ := ProgramTree.exists_of_read otherAccepted
  have both : read .outside (ProgramTree.tokens (program ++ other)) =
      .ok (ProgramTree.statements (program ++ other)) :=
    ProgramTree.read_tokens (program ++ other)
  simpa [ProgramTree.tokens, ProgramTree.statements] using both

/--
Two sources that parse, one after the other on lines of their own, parse as one source. It has
the statements of the first one as they are, and then those of the second one, in which every
span is moved behind the first source and the line feed.
-/
theorem parse_lines
    {first second : String}
    {earlier later : List (Located (Statement Float))}
    (parsed : parse first = .ok earlier)
    (otherParsed : parse second = .ok later) :
    parse (first ++ "\n" ++ second) =
      .ok
        (earlier ++
          later.map (Located.respanStatement (Span.shift (first.utf8ByteSize + 1)))) := by
  obtain ⟨tokens, tokenized, accepted⟩ := parse_eq_ok_iff.1 parsed
  obtain ⟨others, otherTokenized, otherAccepted⟩ := parse_eq_ok_iff.1 otherParsed
  let move := Span.shift (first.utf8ByteSize + 1)
  have movedAccepted :
      ofTokens (others.map (Located.respan move)) =
        .ok (later.map (Located.respanStatement move)) := by
    rw [ofTokens_respan (Span.preservesUnion_shift _), ofTokens, otherAccepted]
    rfl
  have significantTokens :
      significant
          (tokens ++ ⟨.lineEnd, Span.ofWidth first.utf8ByteSize 1⟩ ::
            others.map (Located.respan move)) =
        significant tokens ++ significant (others.map (Located.respan move)) := by
    simp [significant, Token.isTrivia]
  refine parse_eq_ok_iff.2 ⟨_, Lexeme.tokenize_lines tokenized otherTokenized, ?_⟩
  rw [significantTokens]
  exact read_append accepted movedAccepted

/-- A comment and a class name that might be longer end with the line, after two letters of
which one has two bytes. -/
theorem parse_lines_comment :
    ∃ earlier later joined,
      parse "using é as B//" = .ok earlier ∧
        parse "connect a.b to c.d" = .ok later ∧
        parse ("using é as B//" ++ "\n" ++ "connect a.b to c.d") = .ok joined ∧
        joined = earlier ++ later.map (Located.respanStatement (Span.shift 16)) := by
  have parsed :
      parse "using é as B//" =
        .ok
          [⟨.abbreviation ⟨⟨"é"⟩, ⟨6, 8, by omega⟩⟩ ⟨⟨"B"⟩, ⟨12, 13, by omega⟩⟩,
            ⟨6, 13, by omega⟩⟩] := by
    decide +kernel
  have otherParsed :
      parse "connect a.b to c.d" =
        .ok
          [⟨.connection ⟨⟨"a"⟩, ⟨8, 9, by omega⟩⟩ ⟨⟨"b"⟩, ⟨10, 11, by omega⟩⟩
              ⟨⟨"c"⟩, ⟨15, 16, by omega⟩⟩ ⟨⟨"d"⟩, ⟨17, 18, by omega⟩⟩,
            ⟨8, 18, by omega⟩⟩] := by
    decide +kernel
  exact ⟨_, _, _, parsed, otherParsed, parse_lines parsed otherParsed, rfl⟩

end Program

end LevelScript
