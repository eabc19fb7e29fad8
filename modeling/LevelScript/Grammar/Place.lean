import LevelScript.Grammar.Expectation
import LevelScript.Token

namespace LevelScript

/-!
# Places of a program

One token at a time decides how a program goes on. A place is a point between two
tokens: it holds what has been read of the statement around it, and determines which
tokens may follow. A token that cannot follow is the first one at which the program
ceases to be the beginning of any program.
-/

/-- How far a vector has been read, after its opening parenthesis. -/
inductive VectorPlace where
  | opened
  | afterX (x : Float)
  | beforeY (x : Float)
  | afterY (x y : Float)
  | beforeZ (x y : Float)
  | afterZ (vector : Vec3 Float)
deriving Repr, DecidableEq

/-- A declaration of which the closing parenthesis is missing. -/
structure OpenDeclaration where
  name : Located Name
  className : Located Name
  /-- The opening parenthesis. -/
  opening : Span
  arguments : List (Located (Literal Float))
deriving Repr, DecidableEq

/-- A point between two tokens of a program. -/
inductive Place where
  /-- Before the first block. -/
  | outside
  /-- After a whole statement, which the next token does not change. -/
  | complete (statement : Located (Statement Float))
  /-- After the keyword of a block, or a comma between two of its statements. -/
  | opened (kind : StatementKind)
  | abbreviationName (short : Located Name)
  | abbreviationAs (short : Located Name)
  /-- After a whole abbreviation, of which a dot may extend the class name. -/
  | abbreviationClass (short className : Located Name)
  | abbreviationDot (short className : Located Name)
  | declarationName (name : Located Name)
  | declarationBe (name : Located Name)
  | declarationClass (name className : Located Name)
  | declarationDot (name className : Located Name)
  | argumentsOpened (declaration : OpenDeclaration)
  | argumentsComma (declaration : OpenDeclaration)
  | argumentRead (declaration : OpenDeclaration)
  | argumentVector (declaration : OpenDeclaration) (opening : Span) (vector : VectorPlace)
  | placementName (name : Located Name)
  | placementAt (name : Located Name)
  | placementVector (name : Located Name) (opening : Span) (vector : VectorPlace)
  /-- After a whole placement, to which a reference point may be added. -/
  | placementPosition (name : Located Name) (position : Located (Vec3 Float))
  | placementFrom (name : Located Name) (position : Located (Vec3 Float))
  | connectionMoved (moved : Located Name)
  | connectionMovedDot (moved : Located Name)
  | connectionMovedConnector (moved movedConnector : Located Name)
  | connectionTo (moved movedConnector : Located Name)
  | connectionBase (moved movedConnector base : Located Name)
  | connectionBaseDot (moved movedConnector base : Located Name)
deriving Repr, DecidableEq

namespace VectorPlace

/-- What may come next within a vector. -/
def expected :
    VectorPlace →
    Expectation
  | .opened => .number
  | .afterX _ => .vector
  | .beforeY _ => .number
  | .afterY _ _ => .vector
  | .beforeZ _ _ => .number
  | .afterZ _ => .vector

/-- The place after a token that does not close the vector. -/
def extend? :
    VectorPlace →
    Token →
    Option VectorPlace
  | .opened, .number x => some (.afterX x)
  | .afterX x, .comma => some (.beforeY x)
  | .beforeY x, .number y => some (.afterY x y)
  | .afterY x y, .comma => some (.beforeZ x y)
  | .beforeZ x y, .number z => some (.afterZ ⟨x, y, z⟩)
  | _, _ => none

/-- The vector that a token closes. -/
def close? :
    VectorPlace →
    Token →
    Option (Vec3 Float)
  | .afterZ vector, .rightParenthesis => some vector
  | _, _ => none

end VectorPlace

/-- The name that a token spells. -/
def Token.name? :
    Token →
    Option Name
  | .identifier text => some ⟨text⟩
  | _ => none

/-- The kind of the block that a token opens. -/
def Token.block? :
    Token →
    Option StatementKind
  | .keyword word => word.block?
  | _ => none

/-- A dotted name with one more segment. -/
def Located.extendName
    (parent inner : Located Name) :
    Located Name :=
  ⟨parent.value.child inner.value, parent.span.union inner.span⟩

namespace OpenDeclaration

/-- The declaration with one more argument. -/
def push
    (declaration : OpenDeclaration)
    (argument : Located (Literal Float)) :
    OpenDeclaration :=
  { declaration with arguments := declaration.arguments ++ [argument] }

/-- The whole declaration, given its closing parenthesis. -/
def close
    (declaration : OpenDeclaration)
    (closing : Span) :
    Located (Statement Float) where
  value := .declaration declaration.name declaration.className declaration.arguments
  span := declaration.name.span.union (declaration.opening.union closing)

end OpenDeclaration

namespace Place

/-- The place after an argument that consists of one token or starts with the token. -/
def argument?
    (declaration : OpenDeclaration)
    (token : Located Token) :
    Option Place :=
  match token.value with
  | .string text => some (.argumentRead (declaration.push ⟨.string text, token.span⟩))
  | .number value => some (.argumentRead (declaration.push ⟨.number value, token.span⟩))
  | .leftParenthesis => some (.argumentVector declaration token.span .opened)
  | _ => none

/-- The place after a token of a vector, of which the last one leads to `closed`. -/
def vector?
    (within : VectorPlace → Place)
    (closed : Located (Vec3 Float) → Place)
    (opening : Span)
    (vector : VectorPlace)
    (token : Located Token) :
    Option Place :=
  match vector.extend? token.value with
  | some next => some (within next)
  | none =>
      (vector.close? token.value).map fun value =>
        closed ⟨value, opening.union token.span⟩

/-- The place after a name, for each kind of statement. -/
def ofName
    (kind : StatementKind)
    (name : Located Name) :
    Place :=
  match kind with
  | .abbreviation => .abbreviationName name
  | .declaration => .declarationName name
  | .placement => .placementName name
  | .connection => .connectionMoved name

/-- The statement that ends here, if one may. -/
def statement? :
    Place →
    Option (Located (Statement Float))
  | .complete statement => some statement
  | .abbreviationClass short className =>
      some ⟨.abbreviation short className, short.span.union className.span⟩
  | .placementPosition name position =>
      some ⟨.placement name position none, name.span.union position.span⟩
  | _ => none

/-- The place after a token that belongs to the same statement. -/
def extend?
    (place : Place)
    (token : Located Token) :
    Option Place :=
  let name? := token.value.name?.map (⟨·, token.span⟩)
  match place, token.value with
  | .opened kind, _ => name?.map (ofName kind)
  | .abbreviationName short, .keyword .asWord => some (.abbreviationAs short)
  | .abbreviationAs short, _ => name?.map (.abbreviationClass short)
  | .abbreviationClass short className, .dot => some (.abbreviationDot short className)
  | .abbreviationDot short className, _ =>
      name?.map fun inner => .abbreviationClass short (className.extendName inner)
  | .declarationName name, .keyword .beWord => some (.declarationBe name)
  | .declarationBe name, _ => name?.map (.declarationClass name)
  | .declarationClass name className, .dot => some (.declarationDot name className)
  | .declarationClass name className, .leftParenthesis =>
      some (.argumentsOpened ⟨name, className, token.span, []⟩)
  | .declarationDot name className, _ =>
      name?.map fun inner => .declarationClass name (className.extendName inner)
  | .argumentsOpened declaration, .rightParenthesis =>
      some (.complete (declaration.close token.span))
  | .argumentsOpened declaration, _ => argument? declaration token
  | .argumentsComma declaration, _ => argument? declaration token
  | .argumentRead declaration, .comma => some (.argumentsComma declaration)
  | .argumentRead declaration, .rightParenthesis =>
      some (.complete (declaration.close token.span))
  | .argumentVector declaration opening vector, _ =>
      vector? (.argumentVector declaration opening)
        (fun value => .argumentRead (declaration.push (value.map .vector)))
        opening vector token
  | .placementName name, .keyword .atWord => some (.placementAt name)
  | .placementAt name, .leftParenthesis =>
      some (.placementVector name token.span .opened)
  | .placementVector name opening vector, _ =>
      vector? (.placementVector name opening) (.placementPosition name)
        opening vector token
  | .placementPosition name position, .keyword .fromWord =>
      some (.placementFrom name position)
  | .placementFrom name position, _ =>
      name?.map fun origin =>
        .complete ⟨.placement name position (some origin),
          (name.span.union position.span).union origin.span⟩
  | .connectionMoved moved, .dot => some (.connectionMovedDot moved)
  | .connectionMovedDot moved, _ => name?.map (.connectionMovedConnector moved)
  | .connectionMovedConnector moved movedConnector, .keyword .toWord =>
      some (.connectionTo moved movedConnector)
  | .connectionTo moved movedConnector, _ =>
      name?.map (.connectionBase moved movedConnector)
  | .connectionBase moved movedConnector base, .dot =>
      some (.connectionBaseDot moved movedConnector base)
  | .connectionBaseDot moved movedConnector base, _ =>
      name?.map fun baseConnector =>
        .complete ⟨.connection moved movedConnector base baseConnector,
          moved.span.union baseConnector.span⟩
  | _, _ => none

/-- The statements that end here when the program does. -/
def ending? :
    Place →
    Option (List (Located (Statement Float)))
  | .outside => some []
  | place => place.statement?.map ([·])

/-- The statements that end before a token which opens the next one, and its place. -/
def reopen?
    (place : Place)
    (token : Token) :
    Option (List (Located (Statement Float)) × Place) :=
  match token with
  | .comma =>
      place.statement?.map fun statement =>
        ([statement], .opened statement.value.kind)
  | _ =>
      match place.ending?, token.block? with
      | some statements, some kind => some (statements, .opened kind)
      | _, _ => none

/-- What the place expects, as messages name it. -/
def expected :
    Place →
    Expectation
  | .outside => .block
  | .complete _ => .block
  | .opened .abbreviation => .aliasName
  | .opened _ => .entityName
  | .abbreviationName _ => .asWord
  | .abbreviationAs _ => .className
  | .abbreviationClass _ _ => .block
  | .abbreviationDot _ _ => .segment
  | .declarationName _ => .beWord
  | .declarationBe _ => .className
  | .declarationClass _ _ => .openParenthesis
  | .declarationDot _ _ => .segment
  | .argumentsOpened _ => .value
  | .argumentsComma _ => .value
  | .argumentRead _ => .commaOrClose
  | .argumentVector _ _ vector => vector.expected
  | .placementName _ => .atWord
  | .placementAt _ => .vector
  | .placementVector _ _ vector => vector.expected
  | .placementPosition _ _ => .block
  | .placementFrom _ _ => .entityName
  | .connectionMoved _ => .dot
  | .connectionMovedDot _ => .connectorName
  | .connectionMovedConnector _ _ => .toWord
  | .connectionTo _ _ => .entityName
  | .connectionBase _ _ _ => .dot
  | .connectionBaseDot _ _ _ => .connectorName

/-- The kind of the statement that has been begun here and not ended. -/
def within? :
    Place →
    Option StatementKind
  | .outside => none
  | .complete _ => none
  | .opened kind => some kind
  | .abbreviationName _ => some .abbreviation
  | .abbreviationAs _ => some .abbreviation
  | .abbreviationClass _ _ => none
  | .abbreviationDot _ _ => some .abbreviation
  | .declarationName _ => some .declaration
  | .declarationBe _ => some .declaration
  | .declarationClass _ _ => some .declaration
  | .declarationDot _ _ => some .declaration
  | .argumentsOpened _ => some .declaration
  | .argumentsComma _ => some .declaration
  | .argumentRead _ => some .declaration
  | .argumentVector _ _ _ => some .declaration
  | .placementName _ => some .placement
  | .placementAt _ => some .placement
  | .placementVector _ _ _ => some .placement
  | .placementPosition _ _ => none
  | .placementFrom _ _ => some .placement
  | .connectionMoved _ => some .connection
  | .connectionMovedDot _ => some .connection
  | .connectionMovedConnector _ _ => some .connection
  | .connectionTo _ _ => some .connection
  | .connectionBase _ _ _ => some .connection
  | .connectionBaseDot _ _ _ => some .connection

end Place

end LevelScript
