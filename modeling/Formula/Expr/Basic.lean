import Formula.Expr.Op
import Formula.Value.Basic

/-!
# Expression trees

A tree of literals, variables, calls and operators.  `Expr.dependencies` lists
the variables that a tree names, and `Expr.shown` writes a tree with the
operator in front of its operands.
-/

namespace Formula

/--
An expression.  `apply` has a left operand, and a condition or a right operand
as far as its operator takes them.
-/
inductive Expr where
  | literal (value : Value)
  | var (name : String) (indices : List Expr)
  | call (name : String) (arguments : List Expr)
  | apply (op : Op) (condition : Option Expr) (left : Expr) (right : Option Expr)
  deriving Inhabited

namespace Expr

/-- An operator with one operand. -/
abbrev unary (op : Op) (operand : Expr) : Expr :=
  apply op none operand none

/-- An operator with two operands. -/
abbrev binary (op : Op) (left right : Expr) : Expr :=
  apply op none left (some right)

/-- The first branch if the condition is true, and else the second one. -/
abbrev conditional (condition yes no : Expr) : Expr :=
  apply .conditional (some condition) yes (some no)

/-! ## Dependencies -/

mutual

/-- The names of the variables in a tree, from left to right, with repetitions.
A condition stands left of the operands. -/
def variableNames : Expr → List String
  | literal _ => []
  | var name indices => name :: variableNamesOfList indices
  | call _ arguments => variableNamesOfList arguments
  | apply _ condition left right =>
    variableNamesOfOption condition ++ left.variableNames ++
      variableNamesOfOption right

/-- The names of the variables in a list of trees. -/
def variableNamesOfList : List Expr → List String
  | [] => []
  | expr :: rest => expr.variableNames ++ variableNamesOfList rest

/-- The names of the variables in a tree that may be missing. -/
def variableNamesOfOption : Option Expr → List String
  | none => []
  | some expr => expr.variableNames

end

/-- The names of the variables in a tree, in the order of their first
occurrence. -/
def dependencies (expr : Expr) : List String :=
  expr.variableNames.eraseDups

/-! ## Text -/

mutual

/-- The tree in one line: operators and calls in parentheses, the operator first,
and behind it the condition and the operands. -/
def shown : Expr → String
  | literal value => value.quoted
  | var name indices => ":" ++ name ++ shownIndices indices
  | call name arguments => "(call " ++ name ++ shownArguments arguments ++ ")"
  | apply op _ left none => "(" ++ op.symbol ++ " " ++ left.shown ++ ")"
  | apply op none left (some right) =>
    "(" ++ op.symbol ++ " " ++ left.shown ++ " " ++ right.shown ++ ")"
  | apply op (some condition) left (some right) =>
    "(" ++ op.symbol ++ " " ++ condition.shown ++ " " ++ left.shown ++ " " ++
      right.shown ++ ")"

/-- Indices, each in brackets. -/
def shownIndices : List Expr → String
  | [] => ""
  | index :: rest => "[" ++ index.shown ++ "]" ++ shownIndices rest

/-- Arguments, each behind a space. -/
def shownArguments : List Expr → String
  | [] => ""
  | argument :: rest => " " ++ argument.shown ++ shownArguments rest

end

/-! ## Equality -/

mutual

/-- Whether two trees are equal, with literals compared as operands. -/
def same : Expr → Expr → Bool
  | literal v, literal w => v.same w
  | var name indices, var name' indices' =>
    name = name' && sameLists indices indices'
  | call name arguments, call name' arguments' =>
    name = name' && sameLists arguments arguments'
  | apply op condition left right, apply op' condition' left' right' =>
    op = op' && sameOptions condition condition' && left.same left' &&
      sameOptions right right'
  | _, _ => false

/-- Whether two lists of trees are equal. -/
def sameLists : List Expr → List Expr → Bool
  | [], [] => true
  | expr :: rest, expr' :: rest' => expr.same expr' && sameLists rest rest'
  | _, _ => false

/-- Whether two trees that may be missing are equal. -/
def sameOptions : Option Expr → Option Expr → Bool
  | none, none => true
  | some expr, some expr' => expr.same expr'
  | _, _ => false

end

end Expr

end Formula
