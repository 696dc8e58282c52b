import Formula.Token.Error
import Formula.Value.Basic

/-!
# Errors

Everything that can go wrong while an expression is read or evaluated.  An error
ends the whole operation.
-/

namespace Formula

/-- What the parser was looking for when it met a token that does not fit. -/
inductive Expectation where
  | operand
  | identifier
  | colon
  | closeParen
  | closeBracket
  | endOfExpression
  deriving DecidableEq, Repr

/-- The expectation in words. -/
def Expectation.message : Expectation → String
  | operand => "Expected operand"
  | identifier => "Expected identifier after `ex`"
  | colon => "Expected `:` in conditional expression"
  | closeParen => "Missing closing `)`"
  | closeBracket => "Missing closing `]` after index"
  | endOfExpression => "Expected end of expression"

/-- What something was meant to be. -/
inductive Target where
  | value (type : ValueType)
  | nonString
  | unaryOperator
  | binaryOperator
  deriving DecidableEq, Repr

/-- The target in words. -/
def Target.message : Target → String
  | value type => type.name
  | nonString => "non-string"
  | unaryOperator => "unary operator"
  | binaryOperator => "binary operator"

/-- The reasons why there is no expression or no value. -/
inductive Error where
  /-- A token is malformed. -/
  | malformed (failure : ScanFailure)
  /-- A token does not fit: what was expected, what was found, and where. -/
  | unexpected (expected : Expectation) (found : String) (place : Place)
  /-- Something, shown as a text, is not what is needed. -/
  | conversion (subject : String) (target : Target)
  | divisionByZero
  | unresolved (name : String)
  | outOfMemory
  deriving DecidableEq, Repr

/-- A message with the place that it is about. -/
def Place.report (place : Place) (message : String) : String :=
  s!"error (l. {place.line}, c. {place.column}): {message}"

/-- The error in words. -/
def Error.message : Error → String
  | malformed failure => failure.place.report failure.cause.message
  | unexpected expected found place =>
    place.report (expected.message ++ ", found " ++ found)
  | conversion subject target =>
    "Can't convert " ++ subject ++ " to " ++ target.message
  | divisionByZero => "Integer division by zero"
  | unresolved name => "Unresolved identifier: " ++ name
  | outOfMemory => "Out of memory"

end Formula
