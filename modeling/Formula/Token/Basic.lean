import Formula.Source.Basic
import Formula.Text.Classes
import Formula.Token.Kind

/-!
# Tokens

A token is a piece of the source with its kind, its text, the number it spells
if it spells one, and the place where it starts.
-/

namespace Formula

/-- The number that a token spells. -/
inductive Numeral where
  | int (value : Int64)
  | float (value : Float)
  deriving DecidableEq

/--
A token.  `text` is its spelling, except that a name comes without its colon and
a string without its quotes and escapes.
-/
structure Token where
  kind : TokenKind := .unread
  text : String := ""
  literal : Option Numeral := none
  place : Place := {}
  deriving DecidableEq

namespace Token

/-- The spelling of a bareword, or of an operator or constant spelled as a word. -/
def word? (token : Token) : Option String :=
  let spelledAsWord := (token.text.toList.head?.map Text.isNameFirst).getD false
  if token.kind = .bareword || token.kind.isKeyword && spelledAsWord then
    some token.text
  else
    none

/-- The name that the token can give to a variable or a function. -/
def name? (token : Token) : Option String :=
  if token.kind = .identifier then some token.text else token.word?

/-- The token as messages show it. -/
def shown (token : Token) : String :=
  match token.kind with
  | .endOfInput => "end of input"
  | .identifier => ":" ++ token.text
  | .string => "'" ++ token.text ++ "'"
  | kind => if token.text.isEmpty then kind.name else token.text

end Token

end Formula
