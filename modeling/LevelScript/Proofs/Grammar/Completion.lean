import LevelScript.Proofs.Grammar.Reach
import LevelScript.Proofs.Grammar.Soundness

namespace LevelScript

/-!
# Beginnings of programs

Every place has a shortest way to an end of the program. Hence a row of tokens is the beginning
of a sentence of the grammar exactly if it leads to some place, and it is a whole sentence
exactly if the program may end there.
-/

/-- The tokens of a program, wherever they stand. -/
def IsSentence
    (tokens : List Token) :
    Prop :=
  ∃ program : ProgramTree, program.tokens.map Located.value = tokens

/-- A program starts with the tokens. -/
def IsBeginning
    (tokens : List Token) :
    Prop :=
  ∃ sentence, IsSentence sentence ∧ tokens <+: sentence

/-! ## Ways to the end -/

/-- Any name will do to complete a statement. -/
def Token.anyName : Token :=
  .identifier "x"

/-- The tokens that complete a vector. -/
def VectorPlace.completion :
    VectorPlace →
    List Token
  | .opened => [.number 0, .comma, .number 0, .comma, .number 0, .rightParenthesis]
  | .afterX _ => [.comma, .number 0, .comma, .number 0, .rightParenthesis]
  | .beforeY _ => [.number 0, .comma, .number 0, .rightParenthesis]
  | .afterY _ _ => [.comma, .number 0, .rightParenthesis]
  | .beforeZ _ _ => [.number 0, .rightParenthesis]
  | .afterZ _ => [.rightParenthesis]

/-- The tokens that complete a statement of each kind after the name that it starts with. -/
def StatementKind.completion :
    StatementKind →
    List Token
  | .abbreviation => [.keyword .asWord, .anyName]
  | .declaration => [.keyword .beWord, .anyName, .leftParenthesis, .rightParenthesis]
  | .placement => .keyword .atWord :: .leftParenthesis :: VectorPlace.opened.completion
  | .connection => [.dot, .anyName, .keyword .toWord, .anyName, .dot, .anyName]

namespace Place

/-- The tokens that complete the statement which has been begun at a place. -/
def completion :
    Place →
    List Token
  | .outside => []
  | .complete _ => []
  | .opened kind => .anyName :: kind.completion
  | .abbreviationName _ => StatementKind.abbreviation.completion
  | .abbreviationAs _ => [.anyName]
  | .abbreviationClass _ _ => []
  | .abbreviationDot _ _ => [.anyName]
  | .declarationName _ => StatementKind.declaration.completion
  | .declarationBe _ => [.anyName, .leftParenthesis, .rightParenthesis]
  | .declarationClass _ _ => [.leftParenthesis, .rightParenthesis]
  | .declarationDot _ _ => [.anyName, .leftParenthesis, .rightParenthesis]
  | .argumentsOpened _ => [.rightParenthesis]
  | .argumentsComma _ => [.number 0, .rightParenthesis]
  | .argumentRead _ => [.rightParenthesis]
  | .argumentVector _ _ vector => vector.completion ++ [.rightParenthesis]
  | .placementName _ => StatementKind.placement.completion
  | .placementAt _ => .leftParenthesis :: VectorPlace.opened.completion
  | .placementVector _ _ vector => vector.completion
  | .placementPosition _ _ => []
  | .placementFrom _ _ => [.anyName]
  | .connectionMoved _ => StatementKind.connection.completion
  | .connectionMovedDot _ => [.anyName, .keyword .toWord, .anyName, .dot, .anyName]
  | .connectionMovedConnector _ _ => [.keyword .toWord, .anyName, .dot, .anyName]
  | .connectionTo _ _ => [.anyName, .dot, .anyName]
  | .connectionBase _ _ _ => [.dot, .anyName]
  | .connectionBaseDot _ _ _ => [.anyName]

/-- Every place can be completed to one where the program may end. -/
theorem exists_reach?_completion
    (place : Place) :
    ∃ stop,
      place.reach? (place.completion.map Located.unplaced) = some stop ∧
        stop.ending?.isSome := by
  cases place with
  | opened kind =>
      cases kind <;> exact ⟨_, rfl, rfl⟩
  | argumentVector declaration opening vector =>
      cases vector <;> exact ⟨_, rfl, rfl⟩
  | placementVector name opening vector =>
      cases vector <;> exact ⟨_, rfl, rfl⟩
  | _ =>
      exact ⟨_, rfl, rfl⟩

end Place

/-! ## Beginnings -/

/-- Tokens with the same values lead to the same place, up to the spans. -/
theorem Place.exists_reach?_of_values
    {first second : List (Located Token)}
    (sameValues : first.map Located.value = second.map Located.value)
    {stop : Place}
    (reached : Place.outside.reach? first = some stop) :
    ∃ other,
      Place.outside.reach? second = some other ∧
        other.ending?.isSome = stop.ending?.isSome := by
  -- With all spans at the origin the two rows of tokens are the same.
  let move : Span → Span := fun _ => Span.origin
  have preserves : Span.PreservesUnion move :=
    Span.preservesUnion_origin
  have moved : (Place.outside.reach? second).map (respan move) = some (stop.respan move) := by
    rw [← reach?_respan preserves, Located.map_respan_origin, ← sameValues,
      ← Located.map_respan_origin, reach?_respan preserves, reached]
    rfl
  obtain ⟨other, reachedToo, samePlace⟩ := Option.map_eq_some_iff.1 moved
  have sameEnding := congrArg Place.ending? samePlace
  rw [ending?_respan preserves, ending?_respan preserves] at sameEnding
  refine ⟨other, reachedToo, ?_⟩
  simpa using congrArg Option.isSome sameEnding

/-- A row of tokens is a sentence exactly if it leads to a place where the program may end. -/
theorem isSentence_iff
    (tokens : List (Located Token)) :
    IsSentence (tokens.map Located.value) ↔
      ∃ stop, Place.outside.reach? tokens = some stop ∧ stop.ending?.isSome := by
  constructor
  · rintro ⟨program, sameValues⟩
    obtain ⟨stop, reached, ends⟩ :=
      (Program.exists_read_eq_ok_iff .outside program.tokens).1 ⟨_, program.read_tokens⟩
    obtain ⟨other, reachedToo, sameEnding⟩ := Place.exists_reach?_of_values sameValues reached
    exact ⟨other, reachedToo, sameEnding.trans ends⟩
  · intro reaches
    obtain ⟨statements, accepted⟩ :=
      (Program.exists_read_eq_ok_iff .outside tokens).2 reaches
    obtain ⟨program, rfl, _⟩ := ProgramTree.exists_of_read accepted
    exact ⟨program, rfl⟩

/-- A row of tokens begins a sentence exactly if it leads to some place. -/
theorem isBeginning_iff
    (tokens : List (Located Token)) :
    IsBeginning (tokens.map Located.value) ↔ ∃ stop, Place.outside.reach? tokens = some stop := by
  constructor
  · rintro ⟨_, ⟨program, rfl⟩, more, whole⟩
    obtain ⟨start, rest, tokensAre, sameValues, _⟩ := List.map_eq_append_iff.1 whole.symm
    obtain ⟨stop, reached, _⟩ :=
      (Program.exists_read_eq_ok_iff .outside program.tokens).1 ⟨_, program.read_tokens⟩
    rw [tokensAre, Place.reach?_append] at reached
    obtain ⟨between, reachedStart, _⟩ := Option.bind_eq_some_iff.1 reached
    obtain ⟨other, reachedToo, _⟩ := Place.exists_reach?_of_values sameValues reachedStart
    exact ⟨other, reachedToo⟩
  · rintro ⟨stop, reached⟩
    obtain ⟨final, reachedFinal, ends⟩ := stop.exists_reach?_completion
    have completed : IsSentence
        ((tokens ++ stop.completion.map Located.unplaced).map Located.value) := by
      refine (isSentence_iff _).2 ⟨final, ?_, ends⟩
      rw [Place.reach?_append, reached]
      exact reachedFinal
    refine ⟨_, completed, ?_⟩
    rw [List.map_append]
    exact List.prefix_append _ _

end LevelScript
