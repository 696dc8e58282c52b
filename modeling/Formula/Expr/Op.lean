/-!
# Operators

The operators that an expression can apply.  Signs have two readings, as binary
and as prefix operators, which are operators of their own here.
-/

namespace Formula

/-- The operators.  Those named `int…` compute on integers whatever they get. -/
inductive Op where
  | conditional
  | and | or | xor | not
  | bitAnd | bitOr | bitXor | bitNot
  | eq | ne | lt | gt | le | ge | cmp
  | intEq | intNe | intLt | intGt | intLe | intGe | intCmp
  | add | sub | mul | div | rem | pow
  | plus | minus
  | intAdd | intSub | intMul | intDiv | intMod
  | concat | replicate | length | reverse | upper | lower
  | toInt | toFloat | toText | toBool
  | positive | negative | decibel | defined
  deriving DecidableEq, Repr

/-- How an operator is written in a shown tree. -/
def Op.symbol : Op → String
  | conditional => "?"
  | and => "and"
  | or => "or"
  | xor => "xor"
  | not => "!"
  | bitAnd => "band"
  | bitOr => "bor"
  | bitXor => "bxor"
  | bitNot => "~"
  | eq => "=="
  | ne => "!="
  | lt => "<"
  | gt => ">"
  | le => "<="
  | ge => ">="
  | cmp => "<=>"
  | intEq => "ieq"
  | intNe => "ine"
  | intLt => "ilt"
  | intGt => "igt"
  | intLe => "ile"
  | intGe => "ige"
  | intCmp => "icmp"
  | add => "+"
  | sub => "-"
  | mul => "*"
  | div => "/"
  | rem => "%"
  | pow => "**"
  | plus => "+"
  | minus => "-"
  | intAdd => "iadd"
  | intSub => "isub"
  | intMul => "imul"
  | intDiv => "idiv"
  | intMod => "imod"
  | concat => "."
  | replicate => "x"
  | length => "slen"
  | reverse => "srev"
  | upper => "supr"
  | lower => "slwr"
  | toInt => "int"
  | toFloat => "float"
  | toText => "str"
  | toBool => "bool"
  | positive => "psign"
  | negative => "nsign"
  | decibel => "db"
  | defined => "ex"

end Formula
