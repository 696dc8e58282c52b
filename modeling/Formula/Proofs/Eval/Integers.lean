import Formula.Proofs.Eval.Folding
import Mathlib.Algebra.Order.Ring.Int

/-!
# Trees of integers

A tree of integers, signs, sums, differences and products stands for a whole
number of any size.  The evaluator computes in words instead.  A word is what is
left of a whole number modulo `2 ^ 64`, and what is left of the operands
determines what is left of the result; so the tree comes to what is left of its
number, however large the numbers on the way are.
-/

namespace Formula

/-! ## Whole numbers -/

/-- What a sign does to the whole number behind it. -/
def Op.exactSign? : Op → Option (Int → Int)
  | plus => some fun k => k
  | minus => some fun k => -k
  | _ => none

/-- The sum, the difference or the product of two whole numbers. -/
def Op.exactOperation? : Op → Option (Int → Int → Int)
  | add | intAdd => some fun j k => j + k
  | sub | intSub => some fun j k => j - k
  | mul | intMul => some fun j k => j * k
  | _ => none

/-- A tree of integers, signs, sums, differences and products stands for a whole
number. -/
inductive Expr.StandsFor : Expr → Int → Prop where
  | literal (n : Int64) : StandsFor (.literal (.int n)) n.toInt
  | sign {op : Op} {compute : Int → Int} {operand : Expr} {k : Int} :
      op.exactSign? = some compute → StandsFor operand k →
        StandsFor (.unary op operand) (compute k)
  | operation {op : Op} {compute : Int → Int → Int} {left right : Expr}
      {j k : Int} :
      op.exactOperation? = some compute → StandsFor left j → StandsFor right k →
        StandsFor (.binary op left right) (compute j k)

/-! ## Words -/

namespace Eval

/-- A sign changes a word like the number that it is left of. -/
theorem unary_ofInt
    {op : Op}
    {compute : Int → Int}
    (isSign : op.exactSign? = some compute)
    (k : Int) :
    unary op (.int (.ofInt k)) = .ok (.int (.ofInt (compute k))) := by
  cases op
  case plus =>
    obtain rfl := Option.some.inj isSign
    rfl
  case minus =>
    obtain rfl := Option.some.inj isSign
    rw [Int64.ofInt_neg]
    rfl
  all_goals cases isSign

/-- The sum, the difference and the product of words are what is left of those of
the numbers. -/
theorem binary_ofInt
    {op : Op}
    {compute : Int → Int → Int}
    (isOperation : op.exactOperation? = some compute)
    (j k : Int) :
    binary op (.int (.ofInt j)) (.int (.ofInt k)) =
      .ok (.int (.ofInt (compute j k))) := by
  cases op
  case add | intAdd =>
    obtain rfl := Option.some.inj isOperation
    rw [Int64.ofInt_add]
    rfl
  case sub | intSub =>
    obtain rfl := Option.some.inj isOperation
    rw [Int64.ofInt_sub]
    rfl
  case mul | intMul =>
    obtain rfl := Option.some.inj isOperation
    rw [Int64.ofInt_mul]
    rfl
  all_goals cases isOperation

end Eval

/-! ## Trees -/

namespace Expr

/-- Signs and operations on integers evaluate their operands, whatever these
are. -/
theorem evaluate_sign
    {op : Op}
    {compute : Int → Int}
    (isSign : op.exactSign? = some compute)
    (operand : Expr) :
    (unary op operand).evaluate = (do Eval.unary op (← operand.evaluate)) := by
  apply evaluate_unary
  rintro rfl
  cases isSign

theorem evaluate_operation
    {op : Op}
    {compute : Int → Int → Int}
    (isOperation : op.exactOperation? = some compute)
    (left right : Expr) :
    (binary op left right).evaluate =
      (do
        let left ← left.evaluate
        Eval.binary op left (← right.evaluate)) := by
  apply evaluate_binary
  · exact fun _ => rfl
  · rintro rfl
    cases isOperation
  · rintro rfl
    cases isOperation

/-- A tree of integers is evaluated to what is left of its number, without any
question. -/
theorem StandsFor.evaluate_eq
    {t : Expr}
    {k : Int}
    (stands : t.StandsFor k) :
    t.evaluate = pure (.int (.ofInt k)) := by
  -- The evaluation asks nothing, so that it is a result
  -- already, whatever the host is.
  induction stands with
  | literal n =>
      rw [evaluate, Int64.ofInt_toInt]
  | @sign op compute operand k isSign _ ih =>
      rw [evaluate_sign isSign, ih]
      show Dialogue.done (Eval.unary op (.int (.ofInt k))) = _
      rw [Eval.unary_ofInt isSign]
      rfl
  | @operation op compute left right j k isOperation _ _ ihLeft ihRight =>
      rw [evaluate_operation isOperation, ihLeft, ihRight]
      show Dialogue.done (Eval.binary op (.int (.ofInt j)) (.int (.ofInt k))) = _
      rw [Eval.binary_ofInt isOperation]
      rfl

/-- With any host, a tree of integers comes to the integer that is its number
reduced modulo `2 ^ 64` to a signed word. -/
theorem run_evaluate_of_standsFor
    {t : Expr}
    {k : Int}
    (stands : t.StandsFor k) :
    ∃ n : Int64, n.toInt = k.bmod (2 ^ 64) ∧ ∀ resolver,
      t.evaluate.run resolver = .ok (.int n) ∧ t.evaluate.asked resolver = [] := by
  refine ⟨.ofInt k, Int64.toInt_ofInt, fun resolver => ?_⟩
  rw [stands.evaluate_eq]
  exact ⟨rfl, rfl⟩

/-- The least integer has no opposite, and its products and sums do not fit into a
word. -/
theorem run_evaluate_of_standsFor_least :
    let least := literal (.int Int64.minValue)
    let t := binary .intSub (binary .mul (unary .minus least) (literal (.int 3)))
      (unary .plus (binary .add least least))
    t.StandsFor (5 * 2 ^ 63) ∧
      ∃ n : Int64, n.toInt = (5 * 2 ^ 63 : Int).bmod (2 ^ 64) ∧ ∀ resolver,
        t.evaluate.run resolver = .ok (.int n) ∧
          t.evaluate.asked resolver = [] := by
  intro least t
  have isLeast : least.StandsFor Int64.minValue.toInt := .literal _
  have isThree : (literal (.int 3)).StandsFor (3 : Int64).toInt := .literal _
  have isOpposite := @StandsFor.sign .minus _ _ _ rfl isLeast
  have isProduct := @StandsFor.operation .mul _ _ _ _ _ rfl isOpposite isThree
  have isSum := @StandsFor.operation .add _ _ _ _ _ rfl isLeast isLeast
  have isDouble := @StandsFor.sign .plus _ _ _ rfl isSum
  have isDifference :=
    @StandsFor.operation .intSub _ _ _ _ _ rfl isProduct isDouble
  have isNumber : -Int64.minValue.toInt * (3 : Int64).toInt -
      (Int64.minValue.toInt + Int64.minValue.toInt) = 5 * 2 ^ 63 := by
    decide
  have stands : t.StandsFor (5 * 2 ^ 63) := isNumber ▸ isDifference
  exact ⟨stands, run_evaluate_of_standsFor stands⟩

end Expr

end Formula
