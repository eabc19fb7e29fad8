import LevelScript.Proofs.Grammar.Soundness
import LevelScript.Proofs.Lexeme.Split

namespace LevelScript

open Text (byteWidth byteWidth_append)

/-!
# Where statements stand

The tokens of a source follow each other, so whatever is made of a row of them stands where
that row does: from the start of its first token to the stop of its last one. Hence the
names of a statement stand within the statement, and every place is one of whole characters.
-/

/-- No token starts before the tokens to its left have stopped. -/
def InOrder
    (tokens : List (Located Token)) :
    Prop :=
  tokens.Pairwise fun first second => first.span.stop ≤ second.span.start

/-- A span runs from the start of the first token of a row to the stop of the last one. -/
def Spans
    (tokens : List (Located Token))
    (span : Span) :
    Prop :=
  ∃ first last,
    tokens.head? = some first ∧
      tokens.getLast? = some last ∧
      span.start = first.span.start ∧
      span.stop = last.span.stop

/-- One span lies within another one. -/
structure Span.Within
    (inner outer : Span) :
    Prop where
  start : outer.start ≤ inner.start
  stop : inner.stop ≤ outer.stop

/-- One span starts before another one and has stopped where that starts. -/
structure Span.Precedes
    (first second : Span) :
    Prop where
  start : first.start < second.start
  apart : first.stop ≤ second.start

/-- A span starts and stops between two characters of a source, or at one of its ends. -/
structure Span.IsValidIn
    (span : Span)
    (source : String) :
    Prop where
  start : String.Pos.Raw.IsValid source ⟨span.start⟩
  stop : String.Pos.Raw.IsValid source ⟨span.stop⟩

/-- All names of a statement in the order they are written in. -/
def Statement.names :
    Statement α →
    List (Located Name)
  | .abbreviation short className => [short, className]
  | .declaration name className _ => [name, className]
  | .placement name _ relativeTo => name :: relativeTo.toList
  | .connection moved movedConnector base baseConnector =>
      [moved, movedConnector, base, baseConnector]

/-- The names of a statement that are single identifiers wherever it is written. -/
def Statement.identifiers :
    Statement α →
    List (Located Name)
  | .abbreviation short _ => [short]
  | .declaration name _ _ => [name]
  | .placement name _ relativeTo => name :: relativeTo.toList
  | .connection moved movedConnector base baseConnector =>
      [moved, movedConnector, base, baseConnector]

/-- The class that a statement names, whose name may be dotted. -/
def Statement.className? :
    Statement α →
    Option (Located Name)
  | .abbreviation _ className => some className
  | .declaration _ className _ => some className
  | _ => none

/-- A name is what some tokens of a source spell, and stands where they do. -/
def Located.IsSpelledIn
    (name : Located Name)
    (source : String) :
    Prop :=
  ∃ (tokens : List (Located Token)) (tree : DottedTree),
    Lexeme.tokenize source = .ok tokens ∧
      tree.tokens <:+: Program.significant tokens ∧
      tree.joined = name ∧
      Spans tree.tokens name.span

/-- A name is an identifier or that of a class. -/
theorem Statement.mem_names_iff
    {statement : Statement α}
    {name : Located Name} :
    name ∈ statement.names ↔ name ∈ statement.identifiers ∨ statement.className? = some name := by
  cases statement <;> simp [names, identifiers, className?, eq_comm]

/-! ## Rows of tokens -/

section Rows

variable {first second : List (Located Token)} {span other : Span}

theorem spans_singleton
    (token : Located Token) :
    Spans [token] token.span :=
  ⟨token, token, rfl, rfl, rfl, rfl⟩

theorem InOrder.left
    (inOrder : InOrder (first ++ second)) :
    InOrder first :=
  (List.pairwise_append.1 inOrder).1

theorem InOrder.right
    (inOrder : InOrder (first ++ second)) :
    InOrder second :=
  (List.pairwise_append.1 inOrder).2.1

/-- The first token of a row in order starts first. -/
theorem InOrder.start_le
    (inOrder : InOrder first)
    {start token : Located Token}
    (isStart : first.head? = some start)
    (member : token ∈ first) :
    start.span.start ≤ token.span.start := by
  obtain ⟨rest, rfl⟩ := List.head?_eq_some_iff.1 isStart
  rcases List.mem_cons.1 member with rfl | inRest
  · exact Nat.le_refl _
  · exact start.span.start_le_stop.trans ((List.pairwise_cons.1 inOrder).1 token inRest)

/-- The last token of a row in order stops last. -/
theorem InOrder.le_stop
    (inOrder : InOrder first)
    {stop token : Located Token}
    (isStop : first.getLast? = some stop)
    (member : token ∈ first) :
    token.span.stop ≤ stop.span.stop := by
  obtain ⟨rest, rfl⟩ := List.getLast?_eq_some_iff.1 isStop
  rcases List.mem_append.1 member with inRest | isLast
  · have stops := (List.pairwise_append.1 inOrder).2.2 token inRest stop (by simp)
    exact stops.trans stop.span.start_le_stop
  · rw [List.mem_singleton.1 isLast]

/-- A row is spanned by the spans of its two ends. -/
theorem Spans.union
    (between : List (Located Token))
    (spans : Spans first span)
    (otherSpans : Spans second other)
    (inOrder : InOrder (first ++ (between ++ second))) :
    Spans (first ++ (between ++ second)) (span.union other) := by
  obtain ⟨start, stop, isStart, isStop, startIs, stopIs⟩ := spans
  obtain ⟨otherStart, otherStop, isOtherStart, isOtherStop, otherStartIs, otherStopIs⟩ :=
    otherSpans
  have isFirst : (first ++ (between ++ second)).head? = some start := by
    rw [List.head?_append, isStart]
    rfl
  have isLast : (first ++ (between ++ second)).getLast? = some otherStop := by
    rw [← List.append_assoc, List.getLast?_append, isOtherStop]
    rfl
  have startsFirst : start.span.start ≤ otherStart.span.start := by
    apply inOrder.start_le isFirst
    simp [List.mem_of_head? isOtherStart]
  have stopsLast : stop.span.stop ≤ otherStop.span.stop := by
    apply inOrder.le_stop isLast
    simp [List.mem_of_getLast? isStop]
  refine ⟨start, otherStop, isFirst, isLast, ?_, ?_⟩
  · simp only [Span.union]
    omega
  · simp only [Span.union]
    omega

/-- A part of a row stands within the row. -/
theorem Spans.within
    (spans : Spans first span)
    (otherSpans : Spans second other)
    (inOrder : InOrder second)
    (isInfix : first <:+: second) :
    span.Within other := by
  obtain ⟨start, stop, isStart, isStop, startIs, stopIs⟩ := spans
  obtain ⟨otherStart, otherStop, isOtherStart, isOtherStop, otherStartIs, otherStopIs⟩ :=
    otherSpans
  have startsFirst := inOrder.start_le isOtherStart (isInfix.subset (List.mem_of_head? isStart))
  have stopsLast := inOrder.le_stop isOtherStop (isInfix.subset (List.mem_of_getLast? isStop))
  exact ⟨by omega, by omega⟩

end Rows

/-! ## Derivations -/

namespace DottedTree

/-- A name is extended over the segments that follow it. -/
theorem spans_extended
    {earlier : List (Located Token)}
    {name : Located Name}
    {rest : List (Span × Located Name)}
    (spans : Spans earlier name.span)
    (inOrder : InOrder (earlier ++ Separated.restTokens .dot segmentTokens rest)) :
    Spans (earlier ++ Separated.restTokens .dot segmentTokens rest)
      (extended name rest).span := by
  induction rest generalizing earlier name with
  | nil =>
      simpa [extended] using spans
  | cons further rest inductionHypothesis =>
      obtain ⟨dot, segment⟩ := further
      have shape :
          earlier ++ Separated.restTokens .dot segmentTokens ((dot, segment) :: rest) =
            (earlier ++ ([⟨.dot, dot⟩] ++ [segment.nameToken])) ++
              Separated.restTokens .dot segmentTokens rest := by
        simp [segmentTokens]
      rw [shape] at inOrder ⊢
      have extendedSpans :=
        spans.union [⟨.dot, dot⟩] (spans_singleton segment.nameToken) inOrder.left
      exact inductionHypothesis extendedSpans inOrder

/-- A dotted name stands where its segments do. -/
theorem spans_joined
    {tree : DottedTree}
    (inOrder : InOrder tree.tokens) :
    Spans tree.tokens tree.joined.span :=
  spans_extended (spans_singleton tree.first.nameToken) inOrder

end DottedTree

/-- A vector stands where its parentheses do. -/
theorem VectorTree.spans_value
    {tree : VectorTree}
    (inOrder : InOrder tree.tokens) :
    Spans tree.tokens tree.value.span :=
  (spans_singleton ⟨.leftParenthesis, tree.opening⟩).union tree.innerTokens.dropLast
    (spans_singleton ⟨.rightParenthesis, tree.closing⟩) inOrder

namespace PairTree

variable {kind : StatementKind} {pair : PairTree kind}

/-- A statement stands where its tokens do. -/
theorem spans_statement
    (inOrder : InOrder pair.tokens) :
    Spans pair.tokens pair.statement.span := by
  cases pair with
  | abbreviation short asWord className =>
      have apart :
          InOrder ([short.nameToken, ⟨.keyword .asWord, asWord⟩] ++ className.tokens) :=
        inOrder
      exact
        (spans_singleton short.nameToken).union [⟨.keyword .asWord, asWord⟩]
          (DottedTree.spans_joined apart.right) inOrder
  | declaration name beWord className opening arguments closing =>
      have shape :
          (declaration name beWord className opening arguments closing).tokens =
            [name.nameToken] ++
              ((⟨.keyword .beWord, beWord⟩ :: className.tokens) ++
                ([⟨.leftParenthesis, opening⟩] ++
                  (argumentTokens arguments ++ [⟨.rightParenthesis, closing⟩]))) := by
        simp [tokens]
      rw [shape] at inOrder ⊢
      have parentheses :=
        (spans_singleton ⟨.leftParenthesis, opening⟩).union (argumentTokens arguments)
          (spans_singleton ⟨.rightParenthesis, closing⟩) inOrder.right.right
      exact (spans_singleton name.nameToken).union _ parentheses inOrder
  | placement name atWord position relativeTo =>
      have shape :
          (placement name atWord position relativeTo).tokens =
            ([name.nameToken] ++ ([⟨.keyword .atWord, atWord⟩] ++ position.tokens)) ++
              originTokens relativeTo := by
        simp [tokens]
      rw [shape] at inOrder ⊢
      have positionSpans := VectorTree.spans_value inOrder.left.right.right
      have placed := (spans_singleton name.nameToken).union _ positionSpans inOrder.left
      cases relativeTo with
      | none =>
          rw [originTokens, List.append_nil]
          exact placed
      | some origin =>
          obtain ⟨fromWord, reference⟩ := origin
          exact
            placed.union [⟨.keyword .fromWord, fromWord⟩] (spans_singleton reference.nameToken)
              inOrder
  | connection moved movedDot movedConnector toWord base baseDot baseConnector =>
      exact
        (spans_singleton moved.nameToken).union
          [⟨.dot, movedDot⟩, movedConnector.nameToken, ⟨.keyword .toWord, toWord⟩,
            base.nameToken, ⟨.dot, baseDot⟩]
          (spans_singleton baseConnector.nameToken) inOrder

/-- An identifier is a token of its statement. -/
theorem nameToken_mem_tokens
    {name : Located Name}
    (member : name ∈ pair.statement.value.identifiers) :
    name.nameToken ∈ pair.tokens := by
  cases pair with
  | abbreviation short asWord className =>
      have isName : name = short := by
        simpa [statement, Statement.identifiers] using member
      simp [tokens, isName]
  | declaration entity beWord className opening arguments closing =>
      have isName : name = entity := by
        simpa [statement, Statement.identifiers] using member
      simp [tokens, isName]
  | placement entity atWord position relativeTo =>
      cases relativeTo with
      | none =>
          have isName : name = entity := by
            simpa [statement, Statement.identifiers] using member
          simp [tokens, isName]
      | some origin =>
          have isName : name = entity ∨ name = origin.2 := by
            simpa [statement, Statement.identifiers] using member
          rcases isName with rfl | rfl
          · simp [tokens]
          · simp [tokens, originTokens]
  | connection moved movedDot movedConnector toWord base baseDot baseConnector =>
      have isName :
          name = moved ∨ name = movedConnector ∨ name = base ∨ name = baseConnector := by
        simpa [statement, Statement.identifiers] using member
      rcases isName with rfl | rfl | rfl | rfl <;> simp [tokens]

/-- The tokens of a statement spell the class that it names. -/
theorem exists_tree_of_className
    {className : Located Name}
    (isClass : pair.statement.value.className? = some className) :
    ∃ tree : DottedTree, tree.joined = className ∧ tree.tokens <:+: pair.tokens := by
  cases pair with
  | abbreviation short asWord tree =>
      have isPart : tree.tokens <:+: [short.nameToken, ⟨.keyword .asWord, asWord⟩] ++ tree.tokens :=
        (List.suffix_append _ _).isInfix
      exact ⟨tree, Option.some.inj isClass, isPart⟩
  | declaration entity beWord tree opening arguments closing =>
      have isPart :
          tree.tokens <:+:
            [entity.nameToken, ⟨.keyword .beWord, beWord⟩] ++
              (tree.tokens ++ ⟨.leftParenthesis, opening⟩ ::
                (argumentTokens arguments ++ [⟨.rightParenthesis, closing⟩])) :=
        List.infix_append' _ _ _
      exact ⟨tree, Option.some.inj isClass, isPart⟩
  | placement entity atWord position relativeTo =>
      cases relativeTo <;> cases isClass
  | connection =>
      cases isClass

/-- The tokens of a statement spell each of its names. -/
theorem exists_tree_of_mem_names
    {name : Located Name}
    (member : name ∈ pair.statement.value.names) :
    ∃ tree : DottedTree, tree.joined = name ∧ tree.tokens <:+: pair.tokens := by
  rcases Statement.mem_names_iff.1 member with isIdentifier | isClass
  · obtain ⟨before, after, isSplit⟩ := List.mem_iff_append.1 (nameToken_mem_tokens isIdentifier)
    refine ⟨⟨name, []⟩, rfl, before, after, ?_⟩
    rw [isSplit, List.append_assoc]
    rfl
  · exact exists_tree_of_className isClass

end PairTree

/-- What one item contributes to a row stands there without a gap. -/
private theorem infix_flatMap
    {items : List β}
    {item : β}
    (member : item ∈ items)
    (itemTokens : β → List (Located Token)) :
    itemTokens item <:+: items.flatMap itemTokens :=
  List.infix_of_mem_flatten (List.mem_map_of_mem member)

/-- The tokens of an item are a part of those of a row of items. -/
theorem Separated.infix_of_mem
    {separator : Token}
    {itemTokens : β → List (Located Token)}
    {row : Separated β}
    {item : β}
    (member : item ∈ row.items) :
    itemTokens item <:+: row.tokens separator itemTokens := by
  obtain ⟨first, rest⟩ := row
  rcases List.mem_cons.1 member with rfl | inRest
  · exact (List.prefix_append _ _).isInfix
  · obtain ⟨⟨span, item⟩, further, rfl⟩ := List.mem_map.1 inRest
    have withSeparator : itemTokens item <:+: ⟨separator, span⟩ :: itemTokens item :=
      (List.suffix_cons _ _).isInfix
    have inRestTokens : _ <:+: restTokens separator itemTokens rest := infix_flatMap further _
    exact (withSeparator.trans inRestTokens).trans (List.suffix_append _ _).isInfix

/-- Every statement of a program has a part of the tokens to itself. -/
theorem ProgramTree.exists_pair_of_mem_statements
    {program : ProgramTree}
    {statement : Located (Statement Float)}
    (member : statement ∈ program.statements) :
    ∃ (kind : StatementKind) (pair : PairTree kind),
      pair.statement = statement ∧ pair.tokens <:+: program.tokens := by
  obtain ⟨block, inProgram, inBlock⟩ := List.mem_flatMap.1 member
  obtain ⟨pair, inPairs, isStatement⟩ := List.mem_map.1 inBlock
  have inBlockTokens : pair.tokens <:+: block.tokens :=
    (Separated.infix_of_mem inPairs).trans (List.suffix_cons _ _).isInfix
  exact ⟨block.kind, pair, isStatement, inBlockTokens.trans (infix_flatMap inProgram _)⟩

/-! ## Sources -/

section Sources

variable {source : String} {tokens : List (Located Token)}

/-- The tokens of a source are in order. -/
theorem inOrder_of_tokenize
    (tokenized : Lexeme.tokenize source = .ok tokens) :
    InOrder tokens := by
  obtain ⟨shapes, split, rfl⟩ := Lexeme.exists_split_of_tokenize tokenized
  have isTransitive :
      IsTrans (Located Token) fun first second => first.span.stop ≤ second.span.start :=
    ⟨fun _ between _ before after => (before.trans between.span.start_le_stop).trans after⟩
  exact (split.tiles.meet.imp fun _ _ meet => meet.le).pairwise

/-- A span behind one part of a source and as wide as the next one is one of whole
characters. -/
theorem Span.isValidIn_ofWidth
    {before text after : List Char}
    (whole : source.toList = before ++ text ++ after) :
    (ofWidth (byteWidth before) (byteWidth text)).IsValidIn source := by
  constructor
  · rw [List.append_assoc] at whole
    exact Text.isValid_of_append whole
  · have stops := Text.isValid_of_append whole
    rwa [byteWidth_append] at stops

/-- Whole characters of a source are within its bounds. -/
theorem Span.IsValidIn.stop_le
    {span : Span}
    (isValid : span.IsValidIn source) :
    span.stop ≤ source.utf8ByteSize :=
  isValid.stop.le_rawEndPos

/-- A token of a source consists of whole characters. -/
theorem isValidIn_of_tokenize
    (tokenized : Lexeme.tokenize source = .ok tokens)
    {token : Located Token}
    (member : token ∈ tokens) :
    token.span.IsValidIn source := by
  obtain ⟨shape, before, after, _, _, whole, span⟩ :=
    Lexeme.exists_lexeme_of_tokenize tokenized member
  rw [span]
  exact Span.isValidIn_ofWidth whole

/-- What spans some tokens of a source consists of whole characters. -/
theorem Spans.isValidIn
    {row : List (Located Token)}
    {span : Span}
    (spans : Spans row span)
    (tokenized : Lexeme.tokenize source = .ok tokens)
    (areTokens : row.Sublist tokens) :
    span.IsValidIn source := by
  obtain ⟨first, last, isFirst, isLast, start, stop⟩ := spans
  have firstIsValid :=
    isValidIn_of_tokenize tokenized (areTokens.subset (List.mem_of_head? isFirst))
  have lastIsValid :=
    isValidIn_of_tokenize tokenized (areTokens.subset (List.mem_of_getLast? isLast))
  constructor
  · rw [start]
    exact firstIsValid.start
  · rw [stop]
    exact lastIsValid.stop

end Sources

/-- A statement and its names stand in a source where they were read. -/
structure Located.StandsIn
    (statement : Located (Statement Float))
    (source : String) :
    Prop where
  isValid : statement.span.IsValidIn source
  nameIsValid : ∀ name ∈ statement.value.names, name.span.IsValidIn source
  nameIsWithin : ∀ name ∈ statement.value.names, name.span.Within statement.span
  nameIsSpelled : ∀ name ∈ statement.value.names, name.IsSpelledIn source

/-- Every statement of a source stands in it. -/
theorem Program.standsIn_of_parse
    {source : String}
    {statements : List (Located (Statement Float))}
    (parsed : parse source = .ok statements)
    {statement : Located (Statement Float)}
    (member : statement ∈ statements) :
    statement.StandsIn source := by
  obtain ⟨tokens, program, tokenized, tokensAre, rfl⟩ := ProgramTree.exists_of_parse parsed
  obtain ⟨kind, pair, rfl, isPart⟩ := ProgramTree.exists_pair_of_mem_statements member
  rw [tokensAre] at isPart
  have areTokens : (significant tokens).Sublist tokens := List.filter_sublist
  have inOrder : InOrder pair.tokens :=
    (inOrder_of_tokenize tokenized).sublist (isPart.sublist.trans areTokens)
  have spans := PairTree.spans_statement inOrder
  have nameStands : ∀ name ∈ pair.statement.value.names,
      ∃ tree : DottedTree,
        tree.joined = name ∧ tree.tokens <:+: pair.tokens ∧ Spans tree.tokens name.span := by
    intro name isName
    obtain ⟨tree, rfl, inPair⟩ := PairTree.exists_tree_of_mem_names isName
    exact ⟨tree, rfl, inPair, DottedTree.spans_joined (inOrder.sublist inPair.sublist)⟩
  constructor
  · exact spans.isValidIn tokenized (isPart.sublist.trans areTokens)
  · intro name isName
    obtain ⟨tree, _, inPair, nameSpans⟩ := nameStands name isName
    exact nameSpans.isValidIn tokenized ((inPair.trans isPart).sublist.trans areTokens)
  · intro name isName
    obtain ⟨tree, _, inPair, nameSpans⟩ := nameStands name isName
    exact nameSpans.within spans inOrder inPair
  · intro name isName
    obtain ⟨tree, joined, inPair, nameSpans⟩ := nameStands name isName
    exact ⟨tokens, tree, tokenized, inPair.trans isPart, joined, nameSpans⟩

end LevelScript
