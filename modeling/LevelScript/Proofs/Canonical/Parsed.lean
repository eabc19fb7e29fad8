import LevelScript.Proofs.Canonical.Writable
import LevelScript.Proofs.Grammar.Soundness

namespace LevelScript

/-!
# What is parsed can be printed

The tokens of a source have spellings, and a statement is made of nothing but its tokens, so
every statement that is parsed is writable.
-/

/-- All tokens have spellings. -/
def AllWritable
    (tokens : List (Located Token)) :
    Prop :=
  ∀ token ∈ tokens, token.value.IsWritable

theorem allWritable_append
    {first second : List (Located Token)} :
    AllWritable (first ++ second) ↔ AllWritable first ∧ AllWritable second :=
  List.forall_mem_append

theorem allWritable_cons
    {first : Located Token}
    {rest : List (Located Token)} :
    AllWritable (first :: rest) ↔ first.value.IsWritable ∧ AllWritable rest :=
  List.forall_mem_cons

/-- No identifier holds a separator. -/
theorem Name.separator_not_mem_of_isIdentifier
    {text : String}
    (isIdentifier : Word.isIdentifier text = true) :
    Name.separator ∉ text.toList := by
  obtain ⟨first, more, shape, letter, characters, _⟩ :=
    Lexeme.exists_of_isIdentifier isIdentifier
  rw [shape]
  intro member
  rcases List.mem_cons.1 member with isFirst | inMore
  · rw [← isFirst] at letter
    revert letter
    decide
  · have character := characters _ inMore
    revert character
    decide

/-- Each item of a row has spellings. -/
theorem Separated.allWritable_of_mem
    {separator : Token}
    {itemTokens : α → List (Located Token)}
    {row : Separated α}
    (writable : AllWritable (row.tokens separator itemTokens))
    {item : α}
    (member : item ∈ row.items) :
    AllWritable (itemTokens item) := by
  obtain ⟨firstWritable, restWritable⟩ := allWritable_append.1 writable
  rcases List.mem_cons.1 member with rfl | inRest
  · exact firstWritable
  · obtain ⟨⟨span, _⟩, further, rfl⟩ := List.mem_map.1 inRest
    intro token ofItem
    exact restWritable token
      (List.mem_flatMap.2 ⟨_, further, List.mem_cons_of_mem _ ofItem⟩)

/-- The segments of a dotted name are identifiers. -/
theorem DottedTree.isPath_joined
    {name : DottedTree}
    (writable : AllWritable name.tokens) :
    name.joined.value.IsPath := by
  have identifiers : ∀ segment ∈ name.items,
      Word.isIdentifier segment.value.text = true := by
    intro segment member
    exact Separated.allWritable_of_mem writable member _ (List.mem_singleton_self _)
  unfold Name.IsPath
  rw [segments_joined name fun segment member =>
    Name.separator_not_mem_of_isIdentifier (identifiers segment member)]
  simpa using identifiers

theorem VectorTree.isFinite_value
    {vector : VectorTree}
    (writable : AllWritable vector.tokens) :
    vector.value.value.IsFinite := by
  simp only [tokens, innerTokens, allWritable_cons] at writable
  obtain ⟨_, finiteX, _, finiteY, _, finiteZ, _⟩ := writable
  exact ⟨finiteX, finiteY, finiteZ⟩

theorem LiteralTree.isWritable_value
    {literal : LiteralTree}
    (writable : AllWritable literal.tokens) :
    literal.value.value.IsWritable := by
  cases literal with
  | string =>
      exact (allWritable_cons.1 writable).1
  | number =>
      exact (allWritable_cons.1 writable).1
  | vector =>
      exact VectorTree.isFinite_value writable

namespace PairTree

theorem isWritable_argumentValues
    {arguments : Option (Separated LiteralTree)}
    (writable : AllWritable (argumentTokens arguments))
    {argument : Located (Literal Float)}
    (member : argument ∈ argumentValues arguments) :
    argument.value.IsWritable := by
  cases arguments with
  | none =>
      cases member
  | some arguments =>
      obtain ⟨literal, inItems, rfl⟩ := List.mem_map.1 member
      exact LiteralTree.isWritable_value (Separated.allWritable_of_mem writable inItems)

/-- A statement of writable tokens is writable. -/
theorem isWritable_statement
    {pair : PairTree kind}
    (writable : AllWritable pair.tokens) :
    pair.statement.value.IsWritable := by
  cases pair with
  | abbreviation short asWord className =>
      simp only [tokens, allWritable_cons] at writable
      obtain ⟨shortIs, _, classIs⟩ := writable
      exact ⟨shortIs, DottedTree.isPath_joined classIs⟩
  | declaration name beWord className opening arguments closing =>
      simp only [tokens, allWritable_cons, allWritable_append] at writable
      obtain ⟨nameIs, _, classIs, _, argumentsAre, _⟩ := writable
      exact
        ⟨fun _ member => isWritable_argumentValues argumentsAre member, nameIs,
          DottedTree.isPath_joined classIs⟩
  | placement name atWord position relativeTo =>
      simp only [tokens, allWritable_cons, allWritable_append] at writable
      obtain ⟨nameIs, _, positionIs, originIs⟩ := writable
      have finite := VectorTree.isFinite_value positionIs
      cases relativeTo with
      | none =>
          refine ⟨nameIs, finite, ?_⟩
          intro _ given
          cases given
      | some origin =>
          simp only [originTokens, allWritable_cons] at originIs
          refine ⟨nameIs, finite, ?_⟩
          intro _ given
          cases given
          exact originIs.2.1
  | connection moved movedDot movedConnector toWord base baseDot baseConnector =>
      simp only [tokens, allWritable_cons] at writable
      obtain ⟨movedIs, _, movedConnectorIs, _, baseIs, _, baseConnectorIs, _⟩ := writable
      exact ⟨movedIs, movedConnectorIs, baseIs, baseConnectorIs⟩

end PairTree

/-- The statements of a program of writable tokens are writable. -/
theorem ProgramTree.isWritable_statements
    {program : ProgramTree}
    (writable : AllWritable program.tokens)
    {statement : Located (Statement Float)}
    (member : statement ∈ program.statements) :
    statement.value.IsWritable := by
  obtain ⟨block, inProgram, inBlock⟩ := List.mem_flatMap.1 member
  obtain ⟨pair, inPairs, rfl⟩ := List.mem_map.1 inBlock
  have blockWritable : AllWritable block.tokens := by
    intro token ofBlock
    exact writable token (List.mem_flatMap.2 ⟨block, inProgram, ofBlock⟩)
  exact
    PairTree.isWritable_statement
      (Separated.allWritable_of_mem (allWritable_cons.1 blockWritable).2 inPairs)

namespace Program

/-- Every statement of a source is writable. -/
theorem isWritable_of_parse
    {source : String}
    {statements : List (Located (Statement Float))}
    (parsed : parse source = .ok statements)
    {statement : Located (Statement Float)}
    (member : statement ∈ statements) :
    statement.value.IsWritable := by
  obtain ⟨tokens, program, tokenized, tokensAre, rfl⟩ := ProgramTree.exists_of_parse parsed
  refine ProgramTree.isWritable_statements ?_ member
  intro token ofProgram
  rw [tokensAre] at ofProgram
  exact Lexeme.isWritable_of_tokenize tokenized (List.mem_filter.1 ofProgram).1

end Program

end LevelScript
