import Formula.Error
import Formula.Value.Literal

/-!
# Conversions of values

The `cast` functions turn a value into one of another kind; the two empty
values pass through all of them but the conversion to text.  The `fetch`
functions take the payload of the result out, and refuse the empty values.
Strings count as the literals that they spell.
-/

namespace Formula.Value

/-- The error of a value that is not of a type. -/
def mismatch (value : Value) (type : ValueType) : Error :=
  .conversion value.text (.value type)

/-- The literal that a string spells, where a value of a type is needed. -/
def literalOf (text : String) (type : ValueType) : Except Error Value :=
  match ofLiteral? text with
  | some value => .ok value
  | none => .error (.conversion (Text.literal text) (.value type))

/-- The word next to a float on the side of zero.  The least word is a float
itself; the float of the greatest one is the number behind it, which is out of
range. -/
def intOfFloat (x : Float) : Except Error Int64 :=
  let whole := Number.truncate x
  if Number.ofInt Int64.minValue.toInt ≤ whole ∧
    whole < Number.ofInt Int64.maxValue.toInt then
      .ok (Number.toWord whole)
  else .error (mismatch (float x) .int)

/-- One for true, zero for false. -/
def intOfBool (b : Bool) : Int64 :=
  if b then 1 else 0

/-- The conversion to an integer of a value that is no string. -/
def castPlainInt : Value → Except Error Value
  | float x => int <$> intOfFloat x
  | bool b => .ok (int (intOfBool b))
  | value => .ok value

/-- The value as an integer.  Floats lose their fraction. -/
def castInt : Value → Except Error Value
  | str s => literalOf s .int >>= castPlainInt
  | value => castPlainInt value

/-- The conversion to a float of a value that is no string. -/
def castPlainFloat : Value → Value
  | int n => float (Number.ofInt n.toInt)
  | bool b => float (if b then 1 else 0)
  | value => value

/-- The value as a float. -/
def castFloat : Value → Except Error Value
  | str s => castPlainFloat <$> literalOf s .float
  | value => .ok (castPlainFloat value)

/-- The conversion to a truth value of a value that is no string. -/
def castPlainBool : Value → Value
  | int n => bool (n != 0)
  | float x => bool (x != 0)
  | value => value

/-- The value as a truth value.  Every number but zero is true. -/
def castBool : Value → Except Error Value
  | str s => castPlainBool <$> literalOf s .bool
  | value => .ok (castPlainBool value)

/-- The value as a string. -/
def castText (value : Value) : Value :=
  str value.text

/-- The value as a string that reads back as the value. -/
def castQuoted (value : Value) : Value :=
  str value.quoted

/-- The value as a value of the given type. -/
def cast (value : Value) : ValueType → Except Error Value
  | .int => value.castInt
  | .float => value.castFloat
  | .bool => value.castBool
  | .string => .ok value.castText
  | .absent | .null => .ok value

/-- One or zero for a truth value, and any other value itself. -/
def boolAsInt : Value → Value
  | bool b => int (intOfBool b)
  | value => value

/-- The value as an integer or a float, whichever it denotes. -/
def castNumeric : Value → Except Error Value
  | str s => boolAsInt <$> literalOf s .float
  | value => .ok value.boolAsInt

/-- The literal that a string spells, and any other value itself. -/
def castNonString : Value → Except Error Value
  | str s =>
    match ofLiteral? s with
    | some value => .ok value
    | none => .error (.conversion (Text.literal s) .nonString)
  | value => .ok value

/-- The integer that the value counts as. -/
def fetchInt (value : Value) : Except Error Int64 := do
  match ← value.castInt with
  | int n => return n
  | other => throw (mismatch other .int)

/-- The float that the value counts as. -/
def fetchFloat (value : Value) : Except Error Float := do
  match ← value.castFloat with
  | float x => return x
  | other => throw (mismatch other .float)

/-- The truth value that the value counts as. -/
def fetchBool (value : Value) : Except Error Bool := do
  match ← value.castBool with
  | bool b => return b
  | other => throw (mismatch other .bool)

/-- The text of a value that is not empty. -/
def fetchText (value : Value) : Except Error String :=
  if value.isEmpty then .error (mismatch value .string) else .ok value.text

/-- Whether the value counts as true.  The empty values do not. -/
def truthy (value : Value) : Except Error Bool :=
  if value.isEmpty then .ok false else value.fetchBool

end Formula.Value
