import Formula.Eval.Dialogue
import Formula.Eval.Operator
import Formula.Expr.Basic

/-!
# Evaluation

`Expr.evaluate` turns a tree into a dialogue with a host.  Operands are
evaluated from left to right, indices before their variable and arguments before
their call; the first error ends the whole evaluation.  A conditional evaluates
one branch only, and `and` and `or` evaluate their right operand only if the
left one does not decide.
-/

namespace Formula.Expr

open Dialogue

/-- Whether an answer gives a variable a value.  A refusal does not. -/
def exists? : Answer → Bool
  | .ok value => !value.isAbsent
  | .error _ => false

mutual

/-- The value of an expression. -/
def evaluate : Expr → Dialogue Value
  | literal value => pure value
  | var name indices => do
    question (.lookup name (← evaluateIndices indices))
  | call name arguments => do
    question (.call name (← evaluateArguments arguments))
  | apply .conditional (some condition) left (some right) => do
    if ← (← condition.evaluate).truthy then left.evaluate else right.evaluate
  | apply .and _ left (some right) => do
    if ← (← left.evaluate).truthy then
      return .bool (← (← right.evaluate).truthy)
    else
      return .bool false
  | apply .or _ left (some right) => do
    if ← (← left.evaluate).truthy then
      return .bool true
    else
      return .bool (← (← right.evaluate).truthy)
  | apply .defined _ (var name indices) none => do
    ask (.lookup name (← evaluateIndices indices)) fun answer =>
      pure (.bool (exists? answer))
  | apply .defined _ operand none => do
    return .bool !(← operand.evaluate).isAbsent
  | apply op _ operand none => do
    Eval.unary op (← operand.evaluate)
  | apply op _ left (some right) => do
    let left ← left.evaluate
    Eval.binary op left (← right.evaluate)

/-- The integers that the indices of a variable come to. -/
def evaluateIndices : List Expr → Dialogue (List Int64)
  | [] => pure []
  | index :: rest => do
    let n ← (← index.evaluate).fetchInt
    return n :: (← evaluateIndices rest)

/-- The values of the arguments of a call. -/
def evaluateArguments : List Expr → Dialogue (List Value)
  | [] => pure []
  | argument :: rest => do
    let value ← argument.evaluate
    return value :: (← evaluateArguments rest)

end

end Formula.Expr
