namespace LevelScript

/-!
# Expectations

What may come next at a place of a program, as messages name it.
-/

/-- What may come next. -/
inductive Expectation where
  | block
  | aliasName
  | asWord
  | className
  | segment
  | entityName
  | beWord
  | openParenthesis
  | value
  | commaOrClose
  | atWord
  | vector
  | number
  | dot
  | connectorName
  | toWord
deriving Repr, DecidableEq

namespace Expectation

/-- How messages name what is expected. -/
def text :
    Expectation →
    String
  | .block => "`using`, `let`, `position` or `connect`"
  | .aliasName => "alias name"
  | .asWord => "`as`"
  | .className => "class name"
  | .segment => "identifier after `.`"
  | .entityName => "entity name"
  | .beWord => "`be`"
  | .openParenthesis => "`(`"
  | .value => "value"
  | .commaOrClose => "`,` or `)`"
  | .atWord => "`at`"
  | .vector => "3D vector"
  | .number => "number"
  | .dot => "`.`"
  | .connectorName => "connector name"
  | .toWord => "`to`"

end Expectation

end LevelScript
