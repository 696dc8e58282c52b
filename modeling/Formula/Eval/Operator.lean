import Formula.Expr.Op
import Formula.Text.Case
import Formula.Value.Convert

/-!
# What operators compute

One function for each family of operators, on operands that are values already.
The empty values propagate: an absent value wins over an explicit nothing, and
both win over any computation.
-/

namespace Formula.Eval

open Value

/-- The empty value among two operands that decides the result, if there is one. -/
def emptyOperand (left right : Value) : Option Value :=
  if left.isAbsent || right.isAbsent then some .absent
  else if left.isNull || right.isNull then some .null
  else none

/-- The error of an operator that does not take this many operands. -/
def notApplicable (op : Op) (target : Target) : Error :=
  .conversion ("operator " ++ op.symbol) target

/-! ## Arithmetic -/

/-- Sums, differences and products of integers wrap around; the other operators
leave the integers. -/
def intArithmetic? (op : Op) (m n : Int64) : Option Int64 :=
  match op with
  | .add => some (m + n)
  | .sub => some (m - n)
  | .mul => some (m * n)
  | _ => none

/-- Arithmetic on floats. -/
def floatArithmetic (op : Op) (x y : Float) : Float :=
  match op with
  | .add => x + y
  | .sub => x - y
  | .mul => x * y
  | .div => x / y
  | .rem => Number.remainder x y
  | _ => x.pow y

/-- Arithmetic on two values: on integers if both are and the operator stays with
them, and else on floats. -/
def arithmetic (op : Op) (left right : Value) : Except Error Value :=
  match emptyOperand left right with
  | some empty => .ok empty
  | none => do
    let left ← left.castNumeric
    let right ← right.castNumeric
    let floats : Except Error Value := do
      let x ← left.fetchFloat
      let y ← right.fetchFloat
      return .float (floatArithmetic op x y)
    match left, right with
    | .int m, .int n =>
      match intArithmetic? op m n with
      | some sum => return .int sum
      | none => floats
    | _, _ => floats

/-- Arithmetic on words.  Division truncates toward zero. -/
def wordArithmetic (op : Op) (m n : Int64) : Except Error Int64 :=
  match op with
  | .intAdd => .ok (m + n)
  | .intSub => .ok (m - n)
  | .intMul => .ok (m * n)
  | _ =>
    if n = 0 then .error .divisionByZero
    else .ok (if op = .intDiv then m / n else m % n)

/-- Bitwise operators on words. -/
def wordBits (op : Op) (m n : Int64) : Int64 :=
  match op with
  | .bitAnd => m &&& n
  | .bitOr => m ||| n
  | _ => m ^^^ n

/-- An operator on two values that count as integers. -/
def onInts
    (compute : Int64 → Int64 → Except Error Int64)
    (left right : Value) :
    Except Error Value :=
  match emptyOperand left right with
  | some empty => .ok empty
  | none => do
    let m ← left.fetchInt
    let n ← right.fetchInt
    return .int (← compute m n)

/-! ## Comparison -/

/-- Nothing comes before everything else and is equal to itself alone. -/
def nullOrdering? (left right : Value) : Option Ordering :=
  match left.isNull, right.isNull with
  | true, true => some .eq
  | true, false => some .lt
  | false, true => some .gt
  | false, false => none

/-- The order of two floats.  A NaN is in no order with anything. -/
def floatOrdering? (x y : Float) : Option Ordering :=
  x.toModel.compare y.toModel

/-- The order of two texts, by their code points. -/
def textOrdering (s t : String) : Ordering :=
  compare s t

/-- The order of two values as texts, if both are strings, or as floats. -/
def valueOrdering (left right : Value) : Except Error (Option Ordering) :=
  match left, right with
  | .str s, .str t => .ok (some (textOrdering s t))
  | _, _ =>
    match nullOrdering? left right with
    | some ordering => .ok (some ordering)
    | none => do
      let x ← left.fetchFloat
      let y ← right.fetchFloat
      return floatOrdering? x y

/-- The order of two values as integers. -/
def intOrdering (left right : Value) : Except Error (Option Ordering) :=
  match nullOrdering? left right with
  | some ordering => .ok (some ordering)
  | none => do
    let m ← left.fetchInt
    let n ← right.fetchInt
    return some (compare m.toInt n.toInt)

/-- An order as a number. -/
def orderingValue : Ordering → Int64
  | .lt => -1
  | .eq => 0
  | .gt => 1

/-- The result of a comparison, given the order of its operands. -/
def comparisonResult (op : Op) (ordering : Option Ordering) : Value :=
  match op with
  | .cmp | .intCmp =>
    match ordering with
    | some ordering => .int (orderingValue ordering)
    | none => .absent
  | .eq | .intEq => .bool (ordering = some .eq)
  | .ne | .intNe => .bool (ordering ≠ some .eq)
  | .lt | .intLt => .bool (ordering = some .lt)
  | .gt | .intGt => .bool (ordering = some .gt)
  | .le | .intLe => .bool (ordering = some .lt ∨ ordering = some .eq)
  | _ => .bool (ordering = some .gt ∨ ordering = some .eq)

/-- A comparison of two values under one of the orders. -/
def comparison
    (order : Value → Value → Except Error (Option Ordering))
    (op : Op)
    (left right : Value) :
    Except Error Value :=
  if left.isAbsent || right.isAbsent then .ok .absent
  else comparisonResult op <$> order left right

/-! ## Strings -/

/--
A text needs fewer bytes than a process can address.  The program does not fix this
bound: there it is the allocator that refuses, and `2 ^ 47` bytes stand for that.
-/
def textLimit : Nat :=
  Nat.pow 2 47

/-- A text `count` times over. -/
def repeatText (text : String) (count : Nat) : String :=
  String.join (List.replicate count text)

/-- The text of a value as often as the right operand says, not at all for counts
below one. -/
def replicate (left right : Value) : Except Error Value :=
  if right.isEmpty then .ok right
  else do
    let count := (← right.fetchInt).toInt.toNat
    let text := left.text
    if text.isEmpty then return .str text
    else if text.utf8ByteSize * count < textLimit then
      return .str (repeatText text count)
    else throw .outOfMemory

/-! ## All operators -/

/-- The result of an operator on two values. -/
def binary (op : Op) (left right : Value) : Except Error Value :=
  match op with
  | .add | .sub | .mul | .div | .rem | .pow => arithmetic op left right
  | .intAdd | .intSub | .intMul | .intDiv | .intMod =>
    onInts (wordArithmetic op) left right
  | .eq | .ne | .lt | .gt | .le | .ge | .cmp =>
    comparison valueOrdering op left right
  | .intEq | .intNe | .intLt | .intGt | .intLe | .intGe | .intCmp =>
    comparison intOrdering op left right
  | .bitAnd | .bitOr | .bitXor =>
    onInts (fun m n => .ok (wordBits op m n)) left right
  | .xor => do
    let b ← left.truthy
    let c ← right.truthy
    return .bool (b != c)
  | .concat => .ok (.str (left.text ++ right.text))
  | .replicate => replicate left right
  | _ => .error (notApplicable op .binaryOperator)

/-- The opposite of a number. -/
def negate (operand : Value) : Except Error Value := do
  match ← operand.castNumeric with
  | .int n => return .int (-n)
  | other => return .float (-(← other.fetchFloat))

/-- The result of an operator on a value that is not empty. -/
def unaryOnPresent (op : Op) (operand : Value) : Except Error Value :=
  match op with
  | .plus => operand.castNumeric
  | .minus => negate operand
  | .bitNot => return .int (~~~(← operand.fetchInt))
  | .positive => return .bool ((0 : Float) < (← operand.fetchFloat))
  | .negative => return .bool ((← operand.fetchFloat) < 0)
  | .decibel => return .float ((10 : Float).pow ((← operand.fetchFloat) / 20))
  | .length => .ok (.int (.ofNat operand.text.length))
  | .reverse => .ok (.str (String.ofList operand.text.toList.reverse))
  | .upper => .ok (.str (Text.uppercase operand.text))
  | .lower => .ok (.str (Text.lowercase operand.text))
  | _ => .error (notApplicable op .unaryOperator)

/-- The result of an operator on one value. -/
def unary (op : Op) (operand : Value) : Except Error Value :=
  match op with
  | .not => return .bool !(← operand.truthy)
  | .toInt => operand.castInt
  | .toFloat => operand.castFloat
  | .toBool => operand.castBool
  | .toText => .ok operand.castText
  | _ => if operand.isEmpty then .ok operand else unaryOnPresent op operand

end Formula.Eval
