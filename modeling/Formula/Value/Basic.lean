import Formula.Number.Shortest
import Formula.Text.Quoted

/-!
# Values

What an expression evaluates to.  `absent` means that there is no value at all,
`null` is an explicit nothing; the other kinds carry a payload.
-/

namespace Formula

/-- The kinds of values, as targets of conversions. -/
inductive ValueType where
  | absent | null | int | float | string | bool
  deriving DecidableEq, Repr

/-- The name of a kind of values. -/
def ValueType.name : ValueType → String
  | absent => "undef"
  | null => "null"
  | int => "int"
  | float => "float"
  | string => "string"
  | bool => "bool"

/-- The result of evaluating an expression. -/
inductive Value where
  | absent
  | null
  | int (n : Int64)
  | float (x : Float)
  | str (text : String)
  | bool (b : Bool)
  deriving DecidableEq, Inhabited

namespace Value

/-- The kind of a value. -/
def type : Value → ValueType
  | absent => .absent
  | null => .null
  | int _ => .int
  | float _ => .float
  | str _ => .string
  | bool _ => .bool

/-- Whether there is no value at all. -/
def isAbsent : Value → Bool
  | absent => true
  | _ => false

/-- Whether the value is an explicit nothing. -/
def isNull : Value → Bool
  | null => true
  | _ => false

/-- Whether the value is one of the two without payload. -/
def isEmpty (value : Value) : Bool :=
  value.isAbsent || value.isNull

/-- The value as a text.  A string is its own text. -/
def text : Value → String
  | absent => "undef"
  | null => "null"
  | int n => toString n.toInt
  | float x => Number.floatText x
  | str s => s
  | bool b => if b then "true" else "false"

/-- The value as the expression language writes it: a string comes quoted. -/
def quoted : Value → String
  | str s => Text.literal s
  | value => value.text

/--
Whether two values are equal as operands: the kinds have to match, and floats
compare as numbers, so that no NaN is equal to anything.
-/
def same : Value → Value → Bool
  | absent, absent => true
  | null, null => true
  | int m, int n => m = n
  | float x, float y => x == y
  | str s, str t => s = t
  | bool b, bool c => b = c
  | _, _ => false

/-- The value with its kind, for people to read. -/
def describe : Value → String
  | absent => "Undef"
  | null => "Null"
  | int n => "Int(" ++ toString n.toInt ++ ")"
  | float x =>
    "Float(" ++ (if x.isNaN then "NaN" else Number.floatText x) ++ ")"
  | str s => "Str(" ++ Text.diagnostic s ++ ")"
  | bool b => "Bool(" ++ toString b ++ ")"

@[simp]
theorem quoted_of_ne_str
    {value : Value}
    (notString : ∀ s, value ≠ str s) :
    value.quoted = value.text := by
  cases value with
  | str s => exact absurd rfl (notString s)
  | _ => rfl

end Value

end Formula
