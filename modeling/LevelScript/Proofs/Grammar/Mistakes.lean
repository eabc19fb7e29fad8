import LevelScript.Proofs.Grammar.Completion
import LevelScript.Proofs.Lexeme.Split

namespace LevelScript

/-!
# Where a mistake is reported

The grammar's only diagnostic stands at the first token with which the tokens cease to be the
beginning of a program, or at the end of a source that ends too early. It says which statement
has been begun there, unless the tokens in front of it are a program already.
-/

/-- The tokens of a source end where the source does. -/
theorem Lexeme.endOffset_eq
    {source : String}
    {tokens : List (Located Token)}
    (cut : tokenize source = .ok tokens) :
    Program.endOffset tokens = source.utf8ByteSize := by
  obtain ⟨shapes, split, rfl⟩ := exists_split_of_tokenize cut
  exact split.tiles.ends

/-- Every mistake says which statement has been begun. -/
theorem Mistake.help_diagnostic
    (mistake : Mistake)
    (sourceEnd : Nat) :
    (mistake.diagnostic sourceEnd).help =
      mistake.place.within?.map fun kind => "while parsing a " ++ kind.description := by
  unfold diagnostic
  cases mistake.found <;> rfl

namespace Program

/-- A diagnostic points between tokens, at the first one that cannot follow or at the end. -/
structure PointsBetween
    (source : String)
    (before after : List (Located Token))
    (diagnostic : Diagnostic) :
    Prop where
  /-- The tokens in front of the position begin a sentence. -/
  begins : IsBeginning (before.map Located.value)
  /-- The next token is marked, and together with it they begin none. -/
  stuck : ∀ token,
    after.head? = some token →
      diagnostic.code = some .e100 ∧
        diagnostic.primarySpan? = some token.span ∧
        ¬IsBeginning ((before ++ [token]).map Located.value)
  /-- At the end of the source its end is marked, and only a longer sentence begins so. -/
  unfinished :
    after = [] →
      diagnostic.code = some .e101 ∧
        diagnostic.primarySpan? = some (Span.point source.utf8ByteSize) ∧
        ∃ sentence,
          IsSentence sentence ∧
            before.map Located.value <+: sentence ∧ before.map Located.value ≠ sentence
  /-- There is no help exactly if the tokens in front of the position are a program. -/
  helpless : diagnostic.help = none ↔ IsSentence (before.map Located.value)
  /-- The help names the kind of the block that was opened last. -/
  help :
    ¬IsSentence (before.map Located.value) →
      ∃ kind,
        lastBlock? before = some kind ∧
          diagnostic.help = some ("while parsing a " ++ kind.description)

/-- A mistake points to where its tokens get stuck. -/
theorem pointsBetween_diagnostic
    (source : String)
    {before after : List (Located Token)}
    {mistake : Mistake}
    (getsStuck : GetsStuck .outside before after mistake) :
    PointsBetween source before after (mistake.diagnostic source.utf8ByteSize) := by
  obtain ⟨reached, found, stuck, unfinished⟩ := getsStuck
  have sentence : IsSentence (before.map Located.value) ↔ mistake.place.ending?.isSome := by
    rw [isSentence_iff, reached]
    simp
  have begins : IsBeginning (before.map Located.value) :=
    (isBeginning_iff before).2 ⟨_, reached⟩
  refine ⟨begins, ?stuck, ?unfinished, ?helpless, ?help⟩
  case stuck =>
    intro token isFirst
    rw [Mistake.diagnostic, found, isFirst]
    refine ⟨rfl, rfl, ?_⟩
    rw [isBeginning_iff, Place.reach?_append, reached]
    simp [stuck token isFirst]
  case unfinished =>
    rintro rfl
    rw [Mistake.diagnostic, found]
    obtain ⟨whole, isSentence, isPrefix⟩ := begins
    refine ⟨rfl, rfl, whole, isSentence, isPrefix, ?_⟩
    rintro rfl
    rw [sentence, unfinished rfl] at isSentence
    cases isSentence
  case helpless =>
    rw [Mistake.help_diagnostic, sentence, Option.map_eq_none_iff, Place.within?_eq_none_iff]
  case help =>
    intro noSentence
    rw [sentence, ← Place.within?_eq_none_iff] at noSentence
    obtain ⟨kind, within⟩ := Option.ne_none_iff_exists'.1 noSentence
    refine ⟨kind, ?_, ?_⟩
    · have inBlock := Place.kind?_of_reach? reached
      rw [Place.kind?_of_within? within, Place.kind?, Option.or_none] at inBlock
      exact inBlock.symm
    · rw [Mistake.help_diagnostic, within]
      rfl

/-- The one diagnostic of a source that is cut into tokens but is no program stands at the
first token that cannot follow those in front of it, or at the end of the source. -/
theorem exists_pointsBetween_of_parse
    {source : String}
    {tokens : List (Located Token)}
    {error : SyntaxError}
    (cut : Lexeme.tokenize source = .ok tokens)
    (failed : parse source = .error error) :
    ∃ diagnostic before after,
      error.diagnostics = [diagnostic] ∧
        significant tokens = before ++ after ∧
        PointsBetween source before after diagnostic := by
  unfold parse parseTokens at failed
  rw [cut] at failed
  dsimp only at failed
  cases result : ofTokens tokens with
  | ok statements =>
      rw [result] at failed
      cases failed
  | error mistake =>
      rw [result] at failed
      cases failed
      obtain ⟨before, after, tokensAre, getsStuck⟩ := exists_getsStuck_of_read result
      rw [Lexeme.endOffset_eq cut]
      exact ⟨_, before, after, rfl, tokensAre, pointsBetween_diagnostic source getsStuck⟩

/-- Behind the name of a declaration there is no dot, so the mark is on the dot. -/
theorem exists_pointsBetween_of_parse_dot :
    ∃ tokens error,
      Lexeme.tokenize "let a." = .ok tokens ∧
        parse "let a." = .error error ∧
        ∃ diagnostic before after,
          error.diagnostics = [diagnostic] ∧
            significant tokens = before ++ after ∧
            PointsBetween "let a." before after diagnostic := by
  have cut :
      Lexeme.tokenize "let a." =
        .ok [⟨.keyword .letWord, ⟨0, 3, by omega⟩⟩, ⟨.blank, ⟨3, 4, by omega⟩⟩,
          ⟨.identifier "a", ⟨4, 5, by omega⟩⟩, ⟨.dot, ⟨5, 6, by omega⟩⟩] := by
    decide +kernel
  have failed :
      parse "let a." =
        .error ⟨[⟨"expected `be`, found `.`", some .e100,
          [⟨⟨5, 6, by omega⟩, "expected `be`", true⟩],
          some "while parsing a `let` declaration"⟩]⟩ := by
    decide +kernel
  exact ⟨_, _, cut, failed, exists_pointsBetween_of_parse cut failed⟩

end Program

end LevelScript
