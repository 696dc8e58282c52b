import Formula.Source.Basic

/-!
# Malformed tokens

Why a piece of the source is no token.
-/

namespace Formula

/-- What is wrong with a token. -/
inductive ScanError where
  | unexpectedCharacter (c : Char)
  | unterminatedString
  | invalidEscape (c : Char)
  | invalidNumber (text : String)
  | integerOverflow (text : String)
  | invalidColor (text : String)
  | unknownBareword (text : String)
  /-- The source could not go back to the position where an exponent began. -/
  | staleMark
  deriving DecidableEq, Repr

/-- The error in words. -/
def ScanError.message : ScanError → String
  | unexpectedCharacter c => "Unexpected character: " ++ c.toString
  | unterminatedString => "Unterminated string"
  | invalidEscape c => "Invalid escape sequence: \\" ++ c.toString
  | invalidNumber text => "Invalid number: " ++ text
  | integerOverflow text => "Integer literal out of range: " ++ text
  | invalidColor text => "Invalid color: " ++ text
  | unknownBareword text => "Unknown bareword: " ++ text
  | staleMark => CharSource.staleMark

/-- A malformed token: what is wrong with it, and where it starts. -/
structure ScanFailure where
  cause : ScanError
  place : Place
  deriving DecidableEq, Repr

end Formula
