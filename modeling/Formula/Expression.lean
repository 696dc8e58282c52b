import Formula.Eval.Evaluate
import Formula.Parse.Descent
import Formula.Source.Cursor

/-!
# Parsed expressions

An expression, or a list of expressions, that was read from a source and can be
evaluated any number of times, with any host.
-/

namespace Formula

/-- A list of expressions; it has one member unless lists were asked for. -/
structure Expression where
  exprs : List Expr

namespace Expression

/-- The expression that a source of characters spells. -/
def parseSource {σ : Type} [CharSource σ] (source : σ) (multiple : Bool) :
    Except Error Expression :=
  Expression.mk <$> (Parse.expressions multiple (Tokenizer.ofSource source)).1

/-- The expression that a text spells. -/
def parse (text : String) (multiple : Bool) : Except Error Expression :=
  parseSource (Cursor.ofString text) multiple

/-- How many results there will be. -/
def size (expression : Expression) : Nat :=
  expression.exprs.length

/-- The value of the member at a position.  There is none behind the end. -/
def evaluateAt (expression : Expression) (position : Nat) : Dialogue Value :=
  match expression.exprs[position]? with
  | some expr => expr.evaluate
  | none => pure .absent

/-- The value of the first member. -/
def evaluate (expression : Expression) : Dialogue Value :=
  expression.evaluateAt 0

/-- The values of all members, from the first to the last. -/
def evaluateAll (expression : Expression) : Dialogue (List Value) :=
  Expr.evaluateArguments expression.exprs

/-- The names of the variables that the members read, by first occurrence. -/
def dependencies (expression : Expression) : List String :=
  (expression.exprs.flatMap Expr.dependencies).eraseDups

/-- Whether the members read a variable of the given name. -/
def depends (expression : Expression) (name : String) : Bool :=
  name ∈ expression.dependencies

/-- Whether two expressions are equal, with literals compared as operands. -/
def same (left right : Expression) : Bool :=
  Expr.sameLists left.exprs right.exprs

/-- The trees of the members, one behind the other. -/
def shown (expression : Expression) : String :=
  "; ".intercalate (expression.exprs.map Expr.shown)

end Expression

end Formula
