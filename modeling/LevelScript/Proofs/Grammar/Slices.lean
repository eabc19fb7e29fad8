import LevelScript.Proofs.Canonical.Equality
import LevelScript.Proofs.Canonical.Parsed
import LevelScript.Proofs.Canonical.RoundTrip
import LevelScript.Proofs.Grammar.Joining
import LevelScript.Proofs.Lexeme.Slices

namespace LevelScript

open Program (parse read significant)

/-!
# What the spans of a statement cut out

The statements of a source stand one after the other, and everything that has a span of its own
within a statement stands within it. What a span cuts out is the text of what it belongs to: an
identifier, the segments and dots of a class name, or a statement, which is read again from its
text alone if the keyword of its block is put in front.
-/

/-- The tokens that spell a name: its segments with dots between them. -/
def Name.tokens
    (name : Name) :
    List Token :=
  (name.segments.map Token.identifier).intersperse .dot

namespace Statement

/-- The spans of the values that a statement is written with. -/
def valueSpans :
    Statement α →
    List Span
  | .declaration _ _ arguments => arguments.map Located.span
  | .placement _ position _ => [position.span]
  | _ => []

/-- All spans within a statement. -/
def spans
    (statement : Statement α) :
    List Span :=
  statement.names.map Located.span ++ statement.valueSpans

end Statement

/-- The spans of a statement cut out of a source what they belong to. -/
structure Located.CutsOut
    (statement : Located (Statement Float))
    (source : String) :
    Prop where
  isInBounds : statement.span.stop ≤ source.utf8ByteSize
  isValid : statement.span.IsValidIn source
  isNonempty : statement.span.start < statement.span.stop
  isWithin : ∀ span ∈ statement.value.spans, span.Within statement.span
  /-- Alone behind its keyword it is read as the only statement, at the same distances from
  where it starts. -/
  alone : ∃ other relative : Located (Statement Float),
    let text := statement.value.kind.keyword ++ " " ++ statement.span.slice source
    let distance := statement.value.kind.keyword.utf8ByteSize + 1
    parse text = .ok [other] ∧
      (statement == other) = true ∧
      other = relative.respanStatement (Span.shift distance) ∧
      statement = relative.respanStatement (Span.shift statement.span.start)
  identifier : ∀ name ∈ statement.value.identifiers, name.span.slice source = name.value.text
  className : ∀ name,
    statement.value.className? = some name →
      ∃ tokens,
        Lexeme.tokenize (name.span.slice source) = .ok tokens ∧
          (significant tokens).map Located.value = name.value.tokens
  plainClassName : ∀ name,
    statement.value.className? = some name →
      name.value.isDotted = false →
      name.span.slice source = name.value.text

/-! ## Names and values -/

namespace DottedTree

/-- The tokens of a dotted name are those that spell it. -/
theorem map_value_tokens
    {tree : DottedTree}
    (whole : ∀ segment ∈ tree.items, Name.separator ∉ segment.value.text.toList) :
    tree.tokens.map Located.value = tree.joined.value.tokens := by
  unfold Name.tokens
  rw [segments_joined tree whole]
  obtain ⟨first, rest⟩ := tree
  clear whole
  change
    .identifier first.value.text ::
        (Separated.restTokens .dot segmentTokens rest).map Located.value =
      _
  induction rest generalizing first with
  | nil =>
      rfl
  | cons segment rest inductionHypothesis =>
      obtain ⟨dot, segment⟩ := segment
      have further := inductionHypothesis segment
      simp only [Separated.items, List.map_cons] at further ⊢
      rw [List.intersperse_cons_cons, ← further]
      rfl

end DottedTree

/-- A literal stands where its tokens do. -/
theorem LiteralTree.spans_value
    {literal : LiteralTree}
    (inOrder : InOrder literal.tokens) :
    Spans literal.tokens literal.value.span := by
  cases literal with
  | string text =>
      exact spans_singleton _
  | number value =>
      exact spans_singleton _
  | vector tree =>
      exact VectorTree.spans_value inOrder

/-! ## Statements -/

namespace PairTree

variable {kind : StatementKind} {pair : PairTree kind}

/-- The tokens of a statement hold those of each of its values. -/
theorem exists_spans_of_mem_valueSpans
    (inOrder : InOrder pair.tokens)
    {span : Span}
    (member : span ∈ pair.statement.value.valueSpans) :
    ∃ row, row <:+: pair.tokens ∧ Spans row span := by
  cases pair with
  | declaration name beWord className opening arguments closing =>
      obtain ⟨argument, isArgument, rfl⟩ := List.mem_map.1 member
      cases arguments with
      | none =>
          cases isArgument
      | some arguments =>
          obtain ⟨literal, isItem, rfl⟩ := List.mem_map.1 isArgument
          have inArguments : literal.tokens <:+: argumentTokens (some arguments) :=
            Separated.infix_of_mem isItem
          have argumentsInPair :
              argumentTokens (some arguments) <:+:
                (name.nameToken :: ⟨.keyword .beWord, beWord⟩ ::
                    (className.tokens ++ [⟨.leftParenthesis, opening⟩])) ++
                  argumentTokens (some arguments) ++ [⟨.rightParenthesis, closing⟩] :=
            List.infix_append _ _ _
          have isPart : literal.tokens <:+: _ := inArguments.trans argumentsInPair
          simp only [List.cons_append, List.append_assoc, List.nil_append] at isPart
          exact ⟨literal.tokens, isPart, LiteralTree.spans_value (inOrder.sublist isPart.sublist)⟩
  | placement name atWord position relativeTo =>
      have isPosition : span = position.value.span := by
        cases relativeTo <;> simpa [statement, Statement.valueSpans] using member
      subst isPosition
      have isPart :
          position.tokens <:+:
            [name.nameToken, ⟨.keyword .atWord, atWord⟩] ++
              (position.tokens ++ originTokens relativeTo) :=
        List.infix_append' _ _ _
      exact ⟨position.tokens, isPart, VectorTree.spans_value (inOrder.sublist isPart.sublist)⟩
  | _ =>
      cases member

/-- Everything in a statement stands where some of its tokens do. -/
theorem exists_spans_of_mem_spans
    (inOrder : InOrder pair.tokens)
    {span : Span}
    (member : span ∈ pair.statement.value.spans) :
    ∃ row, row <:+: pair.tokens ∧ Spans row span := by
  rcases List.mem_append.1 member with ofName | ofValue
  · obtain ⟨name, isName, rfl⟩ := List.mem_map.1 ofName
    obtain ⟨tree, rfl, isPart⟩ := exists_tree_of_mem_names isName
    exact ⟨tree.tokens, isPart, DottedTree.spans_joined (inOrder.sublist isPart.sublist)⟩
  · exact exists_spans_of_mem_valueSpans inOrder ofValue

/-- A statement starts with an identifier. -/
theorem exists_identifier_of_head?
    (pair : PairTree kind) :
    ∃ name, pair.tokens.head?.map Located.value = some (.identifier name) := by
  cases pair <;> exact ⟨_, rfl⟩

/-- The tokens of a statement alone are read as this statement alone. -/
theorem read_tokens_alone
    (pair : PairTree kind) :
    read (.opened kind) pair.tokens = .ok [pair.statement] := by
  have accepted := pair.read_tokens []
  rw [List.append_nil] at accepted
  rw [accepted, Program.read, Place.ending?_of_statement? pair.statement?_final]

end PairTree

/-! ## The order of the statements -/

/-- The tokens of the items in a row are those of the row without the separators. -/
theorem Separated.flatMap_items_sublist
    (separator : Token)
    (itemTokens : α → List (Located Token))
    (row : Separated α) :
    (row.items.flatMap itemTokens).Sublist (row.tokens separator itemTokens) := by
  obtain ⟨first, rest⟩ := row
  rw [items, List.flatMap_cons, List.flatMap_map]
  refine List.Sublist.append_left (List.Sublist.flatMap_right rest ?_) (itemTokens first)
  intro further _
  exact List.sublist_cons_self _ _

namespace ProgramTree

/-- The statements of a program together with their tokens, without the blocks. -/
def pairs
    (program : ProgramTree) :
    List (Sigma PairTree) :=
  program.flatMap fun block => block.pairs.items.map (Sigma.mk block.kind)

theorem statements_eq_map_pairs
    (program : ProgramTree) :
    program.statements = program.pairs.map fun pair => pair.2.statement := by
  simp only [statements, pairs, List.map_flatMap, List.map_map]
  rfl

/-- The tokens of the statements are those of the program without keywords and commas. -/
theorem flatMap_pairs_sublist
    (program : ProgramTree) :
    (program.pairs.flatMap fun pair => pair.2.tokens).Sublist program.tokens := by
  rw [pairs, List.flatMap_assoc]
  refine List.Sublist.flatMap_right program ?_
  intro block _
  rw [List.flatMap_map]
  exact
    (Separated.flatMap_items_sublist .comma PairTree.tokens block.pairs).trans
      (List.sublist_cons_self _ _)

end ProgramTree

/-- Rows of tokens that are apart stand apart. -/
theorem Spans.precedes
    {first second : List (Located Token)}
    {span other : Span}
    (spans : Spans first span)
    (otherSpans : Spans second other)
    (isNonempty : span.start < span.stop)
    (apart : ∀ token ∈ first, ∀ later ∈ second, token.span.stop ≤ later.span.start) :
    span.Precedes other := by
  obtain ⟨_, last, _, isLast, _, stop⟩ := spans
  obtain ⟨start, _, isStart, _, otherStart, _⟩ := otherSpans
  have stopsBefore := apart last (List.mem_of_getLast? isLast) start (List.mem_of_head? isStart)
  exact ⟨by omega, by omega⟩

/-! ## Sources -/

section Sources

variable {source : String} {tokens : List (Located Token)} {span : Span}

/-- What the tokens of a dotted name span is cut into the tokens that spell the name. -/
theorem DottedTree.tokenize_slice
    {tree : DottedTree}
    (tokenized : Lexeme.tokenize source = .ok tokens)
    (isPart : tree.tokens <:+: significant tokens)
    (spans : Spans tree.tokens span) :
    ∃ inner,
      Lexeme.tokenize (span.slice source) = .ok inner ∧
        (significant inner).map Located.value = tree.joined.value.tokens := by
  obtain ⟨inner, innerTokenized, sameTokens, _⟩ := Lexeme.tokenize_slice tokenized isPart spans
  have whole : ∀ segment ∈ tree.items, Name.separator ∉ segment.value.text.toList := by
    intro segment isSegment
    have inTree : segment.nameToken ∈ tree.tokens :=
      (Separated.infix_of_mem isSegment).subset (List.mem_singleton_self _)
    have inTokens := (List.mem_filter.1 (isPart.subset inTree)).1
    have isWritable := Lexeme.isWritable_of_tokenize tokenized inTokens
    exact Name.separator_not_mem_of_isIdentifier isWritable
  refine ⟨inner, innerTokenized, ?_⟩
  rw [← map_value_tokens whole, ← sameTokens, List.map_map]
  rfl

/-- A joined name without separators has one segment. -/
theorem DottedTree.rest_eq_nil_of_not_isDotted
    {tree : DottedTree}
    (isPlain : tree.joined.value.isDotted = false) :
    tree.rest = [] := by
  unfold Name.isDotted at isPlain
  rw [toList_text_joined] at isPlain
  cases rest : tree.rest with
  | nil =>
      rfl
  | cons segment more =>
      simp [rest, Name.joinSegments] at isPlain

/-- A source that starts with an identifier is read as a block behind the keyword of one. -/
theorem Program.parse_behind_keyword
    {kind : StatementKind}
    {name : String}
    {statements : List (Located (Statement Float))}
    (tokenized : Lexeme.tokenize source = .ok tokens)
    (isFirst : tokens.head?.map Located.value = some (.identifier name))
    (accepted : read (.opened kind) (significant tokens) = .ok statements) :
    parse (kind.keyword ++ " " ++ source) =
      .ok
        (statements.map
          (Located.respanStatement (Span.shift (kind.keyword.utf8ByteSize + 1)))) := by
  let distance := kind.keyword.utf8ByteSize + 1
  let move := Span.shift distance
  have wordTokenized := Lexeme.tokenize_word kind.word tokenized isFirst
  rw [kind.text_word] at wordTokenized
  have movedAccepted :
      read (.opened kind) ((significant tokens).map (Located.respan move)) =
        .ok (statements.map (Located.respanStatement move)) := by
    have moved :=
      read_respan (Span.preservesUnion_shift distance) (.opened kind) (significant tokens)
    rw [accepted] at moved
    exact moved
  refine parse_eq_ok_iff.2 ⟨_, wordTokenized, ?_⟩
  rw [significant, List.filter_cons_of_pos rfl, List.filter_cons_of_neg (by simp [Token.isTrivia])]
  change read .outside (_ :: significant (tokens.map (Located.respan move))) = _
  rw [significant_respan, read_word [] rfl, movedAccepted]
  rfl

/-- The slice of a statement is read as the statement if its keyword is put in front. -/
theorem PairTree.exists_parse_slice
    {pair : PairTree kind}
    (tokenized : Lexeme.tokenize source = .ok tokens)
    (isPart : pair.tokens <:+: significant tokens)
    (spans : Spans pair.tokens span) :
    ∃ relative : Located (Statement Float),
      parse (kind.keyword ++ " " ++ span.slice source) =
          .ok [relative.respanStatement (Span.shift (kind.keyword.utf8ByteSize + 1))] ∧
        pair.statement = relative.respanStatement (Span.shift span.start) := by
  obtain ⟨inner, innerTokenized, sameTokens, sameFirst⟩ :=
    Lexeme.tokenize_slice tokenized isPart spans
  obtain ⟨name, isIdentifier⟩ := pair.exists_identifier_of_head?
  have startsWithName : inner.head?.map Located.value = some (.identifier name) := by
    rw [← isIdentifier, ← sameFirst, Option.map_map]
    rfl
  have moved :=
    Program.read_respan (Span.preservesUnion_shift span.start) (.opened kind) (significant inner)
  rw [sameTokens] at moved
  obtain ⟨statements, accepted, same⟩ :=
    Program.exists_of_respanOutcome_eq_ok (moved.symm.trans pair.read_tokens_alone)
  obtain ⟨relative, rfl, relativeIs⟩ := List.map_eq_singleton_iff.1 same
  have parsed := Program.parse_behind_keyword innerTokenized startsWithName accepted
  exact ⟨relative, parsed, relativeIs.symm⟩

/-- Tokens of a source span at least one byte. -/
theorem Spans.start_lt_stop
    {row : List (Located Token)}
    (spans : Spans row span)
    (tokenized : Lexeme.tokenize source = .ok tokens)
    (areTokens : row.Sublist tokens) :
    span.start < span.stop := by
  obtain ⟨first, last, isFirst, isLast, start, stop⟩ := spans
  have member := List.mem_of_head? isFirst
  have inOrder : InOrder row := (inOrder_of_tokenize tokenized).sublist areTokens
  have stopsLast := inOrder.le_stop isLast member
  have covers := Lexeme.start_lt_stop_of_tokenize tokenized (areTokens.subset member)
  omega

/-- The spans of a statement cut out of the source what they belong to. -/
theorem PairTree.cutsOut
    {pair : PairTree kind}
    (tokenized : Lexeme.tokenize source = .ok tokens)
    (isPart : pair.tokens <:+: significant tokens) :
    pair.statement.CutsOut source := by
  have areTokens : pair.tokens.Sublist tokens := isPart.sublist.trans List.filter_sublist
  have inOrder : InOrder pair.tokens := (inOrder_of_tokenize tokenized).sublist areTokens
  have spans := pair.spans_statement inOrder
  have isValid := spans.isValidIn tokenized areTokens
  constructor
  case isInBounds =>
    exact isValid.stop_le
  case isValid =>
    exact isValid
  case isNonempty =>
    exact spans.start_lt_stop tokenized areTokens
  case isWithin =>
    intro span member
    obtain ⟨row, inPair, rowSpans⟩ := exists_spans_of_mem_spans inOrder member
    exact rowSpans.within spans inOrder inPair
  case alone =>
    obtain ⟨relative, parsed, relativeIs⟩ := exists_parse_slice tokenized isPart spans
    have isWritable : pair.statement.value.IsWritable := by
      refine isWritable_statement ?_
      intro token member
      exact Lexeme.isWritable_of_tokenize tokenized (areTokens.subset member)
    refine ⟨_, relative, ?_, ?_, rfl, relativeIs⟩
    · rw [statement_kind]
      exact parsed
    · refine Statement.beq_of_unplaced ?_ isWritable
      rw [relativeIs]
      exact (Statement.unplaced_respan _ _).trans (Statement.unplaced_respan _ _).symm
  case identifier =>
    intro name member
    have isToken := isPart.subset (nameToken_mem_tokens member)
    exact Lexeme.slice_of_identifier tokenized (List.mem_filter.1 isToken).1
  case className =>
    intro name isClass
    obtain ⟨tree, rfl, inPair⟩ := exists_tree_of_className isClass
    have classSpans := DottedTree.spans_joined (inOrder.sublist inPair.sublist)
    exact DottedTree.tokenize_slice tokenized (inPair.trans isPart) classSpans
  case plainClassName =>
    intro name isClass isPlain
    obtain ⟨tree, rfl, inPair⟩ := exists_tree_of_className isClass
    obtain ⟨first, rest⟩ := tree
    cases DottedTree.rest_eq_nil_of_not_isDotted isPlain
    have isToken := (inPair.trans isPart).subset (List.mem_singleton_self first.nameToken)
    exact Lexeme.slice_of_identifier tokenized (List.mem_filter.1 isToken).1

end Sources

namespace Program

/--
The spans of the statements of a source are those of whole characters within it, none of them
empty, and each one starts behind the one before it. Every span within a statement lies within
the span of the statement. What these spans cut out of the source is the text of an identifier,
the tokens of a class name, or a statement that is read from it alone behind its keyword.
-/
theorem cutsOut_of_parse
    {source : String}
    {statements : List (Located (Statement Float))}
    (parsed : parse source = .ok statements) :
    statements.Pairwise (fun first second => first.span.Precedes second.span) ∧
      ∀ statement ∈ statements, statement.CutsOut source := by
  obtain ⟨tokens, program, tokenized, tokensAre, rfl⟩ := ProgramTree.exists_of_parse parsed
  constructor
  case left =>
    have inTokens : (program.pairs.flatMap fun pair => pair.2.tokens).Sublist tokens :=
      (tokensAre ▸ program.flatMap_pairs_sublist).trans List.filter_sublist
    obtain ⟨inOrder, apart⟩ :=
      List.pairwise_flatMap.1 ((inOrder_of_tokenize tokenized).sublist inTokens)
    rw [program.statements_eq_map_pairs, List.pairwise_map]
    refine apart.imp_of_mem ?_
    intro pair other member otherMember pairsApart
    have areTokens : pair.2.tokens.Sublist tokens :=
      (List.sublist_flatten_of_mem (List.mem_map_of_mem member)).trans inTokens
    have spans := pair.2.spans_statement (inOrder pair member)
    have otherSpans := other.2.spans_statement (inOrder other otherMember)
    exact spans.precedes otherSpans (spans.start_lt_stop tokenized areTokens) pairsApart
  case right =>
    intro statement member
    obtain ⟨kind, pair, rfl, isPart⟩ := ProgramTree.exists_pair_of_mem_statements member
    rw [tokensAre] at isPart
    exact PairTree.cutsOut tokenized isPart

/-- The first name has two bytes, the class name has blanks in it, and in front of the second
statement stands a comment. -/
theorem cutsOut_of_parse_comment :
    ∃ first second,
      parse "using é as A . B,/**/b as C" = .ok [first, second] ∧
        first.span.slice "using é as A . B,/**/b as C" = "é as A . B" ∧
        second.span.slice "using é as A . B,/**/b as C" = "b as C" ∧
        first.span.Precedes second.span ∧
        first.CutsOut "using é as A . B,/**/b as C" ∧
        second.CutsOut "using é as A . B,/**/b as C" := by
  have parsed :
      parse "using é as A . B,/**/b as C" =
        .ok
          [⟨.abbreviation ⟨⟨"é"⟩, ⟨6, 8, by omega⟩⟩ ⟨⟨"A.B"⟩, ⟨12, 17, by omega⟩⟩,
              ⟨6, 17, by omega⟩⟩,
            ⟨.abbreviation ⟨⟨"b"⟩, ⟨22, 23, by omega⟩⟩ ⟨⟨"C"⟩, ⟨27, 28, by omega⟩⟩,
              ⟨22, 28, by omega⟩⟩] := by
    decide +kernel
  obtain ⟨inOrder, cutOut⟩ := cutsOut_of_parse parsed
  rw [List.pairwise_pair] at inOrder
  exact
    ⟨_, _, parsed, by decide +kernel, by decide +kernel, inOrder, cutOut _ (by simp),
      cutOut _ (by simp)⟩

end Program

end LevelScript
