import Formula.Expr.Basic

/-!
# Shapes of trees

A tree has any operator at any place.  In a tree of the right shape every operator
has the operands that it takes: a conditional has a condition and two branches,
a test for existence has a variable, and all others have one operand or two.
-/

namespace Formula

/-- Which operands an operator takes. -/
inductive Op.Form where
  | conditional
  | defined
  | unary
  | binary
  deriving DecidableEq, Repr

/-- The form of an operator. -/
def Op.form : Op → Form
  | .conditional => .conditional
  | .defined => .defined
  | .not | .bitNot | .plus | .minus | .positive | .negative | .decibel
  | .toInt | .toFloat | .toText | .toBool | .length | .reverse | .upper | .lower =>
    .unary
  | .and | .or | .xor | .bitAnd | .bitOr | .bitXor
  | .eq | .ne | .lt | .gt | .le | .ge | .cmp
  | .intEq | .intNe | .intLt | .intGt | .intLe | .intGe | .intCmp
  | .add | .sub | .mul | .div | .rem | .pow
  | .intAdd | .intSub | .intMul | .intDiv | .intMod
  | .concat | .replicate => .binary

/-- Every operator has the operands of its form, and the names and values in the
tree are as they should be. -/
inductive Expr.Shaped (isName : String → Prop) (isValue : Value → Prop) :
    Expr → Prop where
  | literal {value : Value} :
      isValue value → Shaped isName isValue (.literal value)
  | «variable» {name : String} {indices : List Expr} :
      isName name → (∀ index ∈ indices, Shaped isName isValue index) →
        Shaped isName isValue (.var name indices)
  | call {name : String} {arguments : List Expr} :
      isName name → (∀ argument ∈ arguments, Shaped isName isValue argument) →
        Shaped isName isValue (.call name arguments)
  | conditional {condition yes no : Expr} :
      Shaped isName isValue condition → Shaped isName isValue yes →
        Shaped isName isValue no →
          Shaped isName isValue (.conditional condition yes no)
  | defined {name : String} {indices : List Expr} :
      isName name → (∀ index ∈ indices, Shaped isName isValue index) →
        Shaped isName isValue (.unary .defined (.var name indices))
  | unary {op : Op} {operand : Expr} :
      op.form = .unary → Shaped isName isValue operand →
        Shaped isName isValue (.unary op operand)
  | binary {op : Op} {left right : Expr} :
      op.form = .binary → Shaped isName isValue left →
        Shaped isName isValue right →
          Shaped isName isValue (.binary op left right)

end Formula
