/-!
# Floats as exact numbers

A float is an infinity, no number at all, or a whole mantissa times a power of
two.  `Binary.ofFloat` takes a float apart, and the operations here compute on
the parts without rounding: truncation, the remainder of a division, and the
conversions to and from whole numbers, of which the latter rounds once at the end.
-/

namespace Formula.Number

/-- What a float stands for: `finite` is `mantissa * 2 ^ exponent` under a sign. -/
inductive Binary where
  | nan
  | infinite (negative : Bool)
  | finite (negative : Bool) (mantissa : Nat) (exponent : Int)
  deriving DecidableEq, Repr

namespace Binary

/-- Whether a sign is the minus sign. -/
def isMinus : Float.Model.UnpackedFloat.Sign → Bool
  | .negative => true
  | .positive => false

/-- The parts of a float.  A zero has mantissa and exponent zero. -/
def ofFloat (x : Float) : Binary :=
  match x.toModel.unpack with
  | .notANumber => nan
  | .infinity sign => infinite (isMinus sign)
  | .zero sign => finite (isMinus sign) 0 0
  | .finite sign mantissa exponent _ => finite (isMinus sign) mantissa exponent

/-- The float nearest to `± mantissa * 2 ^ exponent`, ties to an even mantissa. -/
def toFloat (negative : Bool) (mantissa : Nat) (exponent : Int) : Float :=
  let sign := if negative then .negative else .positive
  .ofModel <| .pack <|
    if mantissa = 0 then .zero sign
    else Float.Model.UnpackedFloat.round .binary64 sign mantissa exponent

/-- `n` with the given sign. -/
def signed (negative : Bool) (n : Nat) : Int :=
  if negative then -(n : Int) else n

/-- `mantissa * 2 ^ exponent` without its fraction. -/
def floor (mantissa : Nat) (exponent : Int) : Nat :=
  if 0 ≤ exponent then mantissa * Nat.pow 2 exponent.toNat
  else mantissa / Nat.pow 2 (-exponent).toNat

end Binary

/-- A float without its fraction.  What is not finite stays as it is. -/
def truncate (x : Float) : Float :=
  match Binary.ofFloat x with
  | .finite negative mantissa exponent =>
    if exponent < 0 then Binary.toFloat negative (Binary.floor mantissa exponent) 0
    else x
  | _ => x

/-- The word next to a float on the side of zero.  Out of range it is the least
or the greatest word, and zero for what is no number. -/
def toWord (x : Float) : Int64 :=
  x.toModel.unpack.toInt64

/-- The float nearest to a whole number, ties to an even mantissa. -/
def ofInt (n : Int) : Float :=
  .ofModel (.ofInt n)

/--
The remainder of the division of `x` by `y` truncated to a whole number.  It is
exact and has the sign of `x`; a division by zero or of an infinity has none.
-/
def remainder (x y : Float) : Float :=
  match Binary.ofFloat x, Binary.ofFloat y with
  | .finite negative m e, .finite _ n f =>
    if n = 0 then 0 / 0
    else
      let unit := min e f
      let whole :=
        m * Nat.pow 2 (e - unit).toNat % (n * Nat.pow 2 (f - unit).toNat)
      Binary.toFloat negative whole unit
  | .finite .., .infinite _ => x
  | _, _ => 0 / 0

end Formula.Number
