import LevelScript.Grammar.Program

namespace LevelScript

/-!
# Derivations of programs

The grammar of the language, one type for each of its rules. A derivation keeps the span of
every token it is made of, so its row of tokens can be compared with a row that was cut from
a source. Reserved words are tokens of their own, hence no identifiers.
-/

/-- One or more items, each two with a separating token between them. -/
structure Separated (α : Type) where
  first : α
  /-- The further items, each after the span of its separator. -/
  rest : List (Span × α)
deriving Repr, DecidableEq

/--
`DOTTEDNAME := IDENT ("." IDENT)*`. A single identifier is a dotted name without dots, so
the choice `(IDENT|DOTTEDNAME)` for the class of a declaration is no choice.
-/
abbrev DottedTree := Separated (Located Name)

/-- `vector3 := "(" NUMBER "," NUMBER "," NUMBER ")"`. -/
structure VectorTree where
  opening : Span
  x : Located Float
  firstComma : Span
  y : Located Float
  secondComma : Span
  z : Located Float
  closing : Span
deriving Repr, DecidableEq

/-- `literal := STRING | NUMBER | vector3`. -/
inductive LiteralTree where
  | string (text : Located String)
  | number (value : Located Float)
  | vector (tree : VectorTree)
deriving Repr, DecidableEq

/-- One statement of a block, without the keyword that opens the block. -/
inductive PairTree : StatementKind → Type where
  /-- `aliasPair := IDENT "as" DOTTEDNAME`. -/
  | abbreviation
      (short : Located Name)
      (asWord : Span)
      (className : DottedTree) :
      PairTree .abbreviation
  /-- `declPair := IDENT "be" DOTTEDNAME "(" (literal ("," literal)*)? ")"`. -/
  | declaration
      (name : Located Name)
      (beWord : Span)
      (className : DottedTree)
      (opening : Span)
      (arguments : Option (Separated LiteralTree))
      (closing : Span) :
      PairTree .declaration
  /-- `posPair := IDENT "at" vector3 ("from" IDENT)?`. -/
  | placement
      (name : Located Name)
      (atWord : Span)
      (position : VectorTree)
      (relativeTo : Option (Span × Located Name)) :
      PairTree .placement
  /-- `connPair := IDENT "." IDENT "to" IDENT "." IDENT`. -/
  | connection
      (moved : Located Name)
      (movedDot : Span)
      (movedConnector : Located Name)
      (toWord : Span)
      (base : Located Name)
      (baseDot : Span)
      (baseConnector : Located Name) :
      PairTree .connection

/-- A keyword and the pairs that share it, as in `"using" aliasPair ("," aliasPair)*`. -/
structure BlockTree where
  kind : StatementKind
  keyword : Span
  pairs : Separated (PairTree kind)

/-- `program := stmt*`. -/
abbrev ProgramTree := List BlockTree

/-! ## The tokens of a derivation -/

/-- The keyword that opens a block of statements of a kind. -/
def StatementKind.word :
    StatementKind →
    Keyword
  | .abbreviation => .usingWord
  | .declaration => .letWord
  | .placement => .positionWord
  | .connection => .connectWord

/-- The token of an identifier. -/
def Located.nameToken
    (name : Located Name) :
    Located Token :=
  ⟨.identifier name.value.text, name.span⟩

namespace Separated

/-- The tokens of the items after the first one, with their separators. -/
def restTokens
    (separator : Token)
    (itemTokens : α → List (Located Token))
    (rest : List (Span × α)) :
    List (Located Token) :=
  rest.flatMap fun (span, item) => ⟨separator, span⟩ :: itemTokens item

/-- The tokens of all items with their separators. -/
def tokens
    (separator : Token)
    (itemTokens : α → List (Located Token))
    (row : Separated α) :
    List (Located Token) :=
  itemTokens row.first ++ restTokens separator itemTokens row.rest

@[simp] theorem restTokens_nil
    (separator : Token)
    (itemTokens : α → List (Located Token)) :
    restTokens separator itemTokens [] = [] :=
  rfl

@[simp] theorem restTokens_cons
    (separator : Token)
    (itemTokens : α → List (Located Token))
    (span : Span)
    (item : α)
    (rest : List (Span × α)) :
    restTokens separator itemTokens ((span, item) :: rest) =
      ⟨separator, span⟩ :: (itemTokens item ++ restTokens separator itemTokens rest) :=
  rfl

/-- The items in order. -/
def items
    (row : Separated α) :
    List α :=
  row.first :: row.rest.map Prod.snd

end Separated

namespace DottedTree

/-- The token of one segment. -/
def segmentTokens
    (segment : Located Name) :
    List (Located Token) :=
  [segment.nameToken]

/-- The tokens of a dotted name. -/
def tokens
    (name : DottedTree) :
    List (Located Token) :=
  Separated.tokens .dot segmentTokens name

/-- A name extended by further segments. -/
def extended
    (first : Located Name)
    (rest : List (Span × Located Name)) :
    Located Name :=
  rest.foldl (fun name segment => name.extendName segment.2) first

/-- The name whose segments are joined by dots, over the span of all of them. -/
def joined
    (name : DottedTree) :
    Located Name :=
  extended name.first name.rest

end DottedTree

namespace VectorTree

/-- The tokens after the opening parenthesis. -/
def innerTokens
    (vector : VectorTree) :
    List (Located Token) :=
  [⟨.number vector.x.value, vector.x.span⟩, ⟨.comma, vector.firstComma⟩,
    ⟨.number vector.y.value, vector.y.span⟩, ⟨.comma, vector.secondComma⟩,
    ⟨.number vector.z.value, vector.z.span⟩, ⟨.rightParenthesis, vector.closing⟩]

/-- The tokens of a vector. -/
def tokens
    (vector : VectorTree) :
    List (Located Token) :=
  ⟨.leftParenthesis, vector.opening⟩ :: vector.innerTokens

/-- The vector itself, from parenthesis to parenthesis. -/
def value
    (vector : VectorTree) :
    Located (Vec3 Float) where
  value := ⟨vector.x.value, vector.y.value, vector.z.value⟩
  span := vector.opening.union vector.closing

end VectorTree

namespace LiteralTree

/-- The tokens of a literal. -/
def tokens :
    LiteralTree →
    List (Located Token)
  | .string text => [⟨.string text.value, text.span⟩]
  | .number value => [⟨.number value.value, value.span⟩]
  | .vector tree => tree.tokens

/-- The literal itself. -/
def value :
    LiteralTree →
    Located (Literal Float)
  | .string text => text.map .string
  | .number value => value.map .number
  | .vector tree => tree.value.map .vector

end LiteralTree

namespace PairTree

/-- The tokens of the arguments between the parentheses. -/
def argumentTokens :
    Option (Separated LiteralTree) →
    List (Located Token)
  | none => []
  | some arguments => arguments.tokens .comma LiteralTree.tokens

/-- The arguments themselves. -/
def argumentValues :
    Option (Separated LiteralTree) →
    List (Located (Literal Float))
  | none => []
  | some arguments => arguments.items.map LiteralTree.value

/-- The tokens of a reference point. -/
def originTokens :
    Option (Span × Located Name) →
    List (Located Token)
  | none => []
  | some (fromWord, name) => [⟨.keyword .fromWord, fromWord⟩, name.nameToken]

/-- The tokens of a statement without its keyword. -/
def tokens :
    PairTree kind →
    List (Located Token)
  | .abbreviation short asWord className =>
      short.nameToken :: ⟨.keyword .asWord, asWord⟩ :: className.tokens
  | .declaration name beWord className opening arguments closing =>
      name.nameToken :: ⟨.keyword .beWord, beWord⟩ ::
        (className.tokens ++ ⟨.leftParenthesis, opening⟩ ::
          (argumentTokens arguments ++ [⟨.rightParenthesis, closing⟩]))
  | .placement name atWord position relativeTo =>
      name.nameToken :: ⟨.keyword .atWord, atWord⟩ ::
        (position.tokens ++ originTokens relativeTo)
  | .connection moved movedDot movedConnector toWord base baseDot baseConnector =>
      [moved.nameToken, ⟨.dot, movedDot⟩, movedConnector.nameToken,
        ⟨.keyword .toWord, toWord⟩,
        base.nameToken, ⟨.dot, baseDot⟩, baseConnector.nameToken]

/-- The statement itself, from its first token to its last one. -/
def statement :
    PairTree kind →
    Located (Statement Float)
  | .abbreviation short _ className =>
      ⟨.abbreviation short className.joined, short.span.union className.joined.span⟩
  | .declaration name _ className opening arguments closing =>
      ⟨.declaration name className.joined (argumentValues arguments),
        name.span.union (opening.union closing)⟩
  | .placement name _ position none =>
      ⟨.placement name position.value none, name.span.union position.value.span⟩
  | .placement name _ position (some (_, origin)) =>
      ⟨.placement name position.value (some origin),
        (name.span.union position.value.span).union origin.span⟩
  | .connection moved _ movedConnector _ base _ baseConnector =>
      ⟨.connection moved movedConnector base baseConnector,
        moved.span.union baseConnector.span⟩

/-- A statement is of the kind of its block. -/
@[simp] theorem statement_kind
    (pair : PairTree kind) :
    pair.statement.value.kind = kind := by
  cases pair with
  | placement name atWord position relativeTo =>
      cases relativeTo <;> rfl
  | _ =>
      rfl

end PairTree

namespace BlockTree

/-- The tokens of a block. -/
def tokens
    (block : BlockTree) :
    List (Located Token) :=
  ⟨.keyword block.kind.word, block.keyword⟩ :: block.pairs.tokens .comma PairTree.tokens

/-- The statements of a block, one for each pair. -/
def statements
    (block : BlockTree) :
    List (Located (Statement Float)) :=
  block.pairs.items.map PairTree.statement

end BlockTree

namespace ProgramTree

/-- The tokens of a program. -/
def tokens
    (program : ProgramTree) :
    List (Located Token) :=
  program.flatMap BlockTree.tokens

/-- The statements of a program in the order of the source. -/
def statements
    (program : ProgramTree) :
    List (Located (Statement Float)) :=
  program.flatMap BlockTree.statements

@[simp] theorem tokens_nil :
    tokens [] = [] :=
  rfl

@[simp] theorem tokens_cons
    (block : BlockTree)
    (rest : ProgramTree) :
    tokens (block :: rest) = block.tokens ++ tokens rest :=
  rfl

@[simp] theorem statements_nil :
    statements [] = [] :=
  rfl

@[simp] theorem statements_cons
    (block : BlockTree)
    (rest : ProgramTree) :
    statements (block :: rest) = block.statements ++ statements rest :=
  rfl

end ProgramTree

end LevelScript
