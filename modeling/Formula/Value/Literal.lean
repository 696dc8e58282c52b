import Formula.Source.Cursor
import Formula.Token.Tokenizer
import Formula.Value.Basic

/-!
# Texts that spell a literal

A text counts as a number or a truth value if it is a single literal of the
expression language, with blanks around it or not.
-/

namespace Formula

/-- The number that a token spells, as a value. -/
def Numeral.value : Numeral → Value
  | int n => .int n
  | float x => .float x

namespace Token

/-- The number or the truth value that the token spells. -/
def literalValue? (token : Token) : Option Value :=
  match token.kind with
  | .integer | .float => token.literal.map Numeral.value
  | .constTrue => some (.bool true)
  | .constFalse => some (.bool false)
  | _ => none

end Token

/-- The number or the truth value that the whole text spells. -/
def Value.ofLiteral? (text : String) : Option Value := do
  let first := (Tokenizer.ofSource (Cursor.ofString text)).get { get := true }
  let value ← first.token.literalValue?
  let second := first.get { get := true }
  if second.token.kind = .endOfInput then some value else none

end Formula
