import Formula.Number.Decimal

/-!
# The shortest decimal of a float

Among the decimals that read back as a given float, `shortest` picks the one
with the fewest digits, and of those the nearest.  `Layout` then says how
digits are laid out, and `floatText` is the text of a float as a value.
-/

namespace Formula.Number

/-- How many decimal digits a whole number has. -/
def digitCount (n : Nat) : Nat :=
  (Nat.toDigits 10 n).length

/-- A positive number as the fraction `numerator / denominator`. -/
structure Fraction where
  numerator : Nat
  denominator : Nat

namespace Fraction

/-- `n * base ^ exponent`. -/
def scaled (base n : Nat) (exponent : Int) : Fraction :=
  ⟨n * base.pow exponent.toNat, base.pow (-exponent).toNat⟩

/-- `n * 2 ^ exponent`. -/
abbrev ofBinary : Nat → Int → Fraction :=
  scaled 2

/-- `n * 10 ^ exponent`. -/
abbrev ofDecimal : Nat → Int → Fraction :=
  scaled 10

/-- Whether `x` is below `y`. -/
def lt (x y : Fraction) : Bool :=
  x.numerator * y.denominator < y.numerator * x.denominator

/-- Whether `x` is not above `y`. -/
def le (x y : Fraction) : Bool :=
  x.numerator * y.denominator ≤ y.numerator * x.denominator

/-- The sum of two fractions. -/
def add (x y : Fraction) : Fraction :=
  ⟨x.numerator * y.denominator + y.numerator * x.denominator,
    x.denominator * y.denominator⟩

/-- The power of ten of the number's leading digit. -/
def magnitude (x : Fraction) : Int :=
  if x.denominator ≤ x.numerator then
    (digitCount (x.numerator / x.denominator) : Int) - 1
  else
    -(digitCount ((x.denominator - 1) / x.numerator) : Int)

/-- The whole multiple of `10 ^ place` next to the number on the side of zero. -/
def floorAt (x : Fraction) (place : Int) : Nat :=
  x.numerator * Nat.pow 10 (-place).toNat /
    (x.denominator * Nat.pow 10 place.toNat)

end Fraction

/--
The numbers that round to one float: those between `low` and `high`, the ends
among them if `closed`.
-/
structure Neighbourhood where
  low : Fraction
  value : Fraction
  high : Fraction
  closed : Bool

namespace Neighbourhood

/--
The neighbourhood of `mantissa * 2 ^ exponent`.  Its ends lie half way to the
next floats; below a power of two the floats are twice as dense.
-/
def ofBinary (mantissa : Nat) (exponent : Int) : Neighbourhood where
  low :=
    if mantissa = Nat.pow 2 52 ∧ -1074 < exponent then
      .ofBinary (4 * mantissa - 1) (exponent - 2)
    else
      .ofBinary (2 * mantissa - 1) (exponent - 1)
  value := .ofBinary mantissa exponent
  high := .ofBinary (2 * mantissa + 1) (exponent - 1)
  closed := mantissa % 2 = 0

/-- Whether `x` rounds to the float. -/
def holds (near : Neighbourhood) (x : Fraction) : Bool :=
  if near.closed then near.low.le x && x.le near.high
  else near.low.lt x && x.lt near.high

/--
The multiple of `10 ^ place` in the neighbourhood that is nearest to the value,
the larger of two that are equally near.
-/
def nearestAt? (near : Neighbourhood) (place : Int) : Option Nat :=
  let below := near.value.floorAt place
  let above := below + 1
  let fits n := near.holds (.ofDecimal n place)
  match fits below, fits above with
  | true, true =>
    let middle := (Fraction.ofDecimal below place).add (.ofDecimal above place)
    if (near.value.add near.value).lt middle then some below else some above
  | true, false => some below
  | false, true => some above
  | false, false => none

/-- The first hit on grids of `count`, `count + 1`, … digits, `tries` of them. -/
def search (near : Neighbourhood) (count : Nat) : Nat → Nat × Int
  | 0 => (0, 0)
  | tries + 1 =>
    let place := near.value.magnitude - count + 1
    match near.nearestAt? place with
    | some n => (n, place)
    | none => near.search (count + 1) tries

end Neighbourhood

/--
The digits and the power of ten of the shortest decimal that rounds to
`mantissa * 2 ^ exponent`.  Seventeen digits are always enough.
-/
def shortest (mantissa : Nat) (exponent : Int) : Nat × Int :=
  (Neighbourhood.ofBinary mantissa exponent).search 1 17

/-- How the digits of a number are written out. -/
structure Layout where
  /-- Smaller powers of ten of the leading digit call for an exponent. -/
  leastPlain : Int
  /-- Larger powers of ten of the leading digit call for an exponent. -/
  mostPlain : Int
  /-- The fraction of a whole number in plain notation. -/
  wholeFraction : List Char
  /-- The mark in front of an exponent. -/
  exponentMark : Char

namespace Layout

/-- Digits whose first one counts `10 ^ leading`, with a point where it belongs. -/
def plain (layout : Layout) (digits : List Char) (leading : Int) : List Char :=
  if leading < 0 then
    '0' :: '.' :: List.replicate (-leading - 1).toNat '0' ++ digits
  else
    let count := leading.toNat + 1
    let whole := digits.take count ++ List.replicate (count - digits.length) '0'
    let fraction := digits.drop count
    whole ++ '.' :: if fraction.isEmpty then layout.wholeFraction else fraction

/-- Digits with the point behind the first one, and an exponent. -/
def scientific
    (layout : Layout)
    (digits : List Char)
    (leading : Int) :
    List Char :=
  digits.take 1 ++ (if digits.length ≤ 1 then [] else '.' :: digits.drop 1) ++
    layout.exponentMark :: (toString leading).toList

/-- The text of the positive number `digits * 10 ^ exponent`. -/
def positive (layout : Layout) (digits : Nat) (exponent : Int) : List Char :=
  let all := Nat.toDigits 10 digits
  let leading := exponent + all.length - 1
  let significant := (all.reverse.dropWhile (· == '0')).reverse
  if layout.leastPlain ≤ leading ∧ leading ≤ layout.mostPlain then
    layout.plain significant leading
  else
    layout.scientific significant leading

end Layout

/--
Values are written plainly from `0.0001` up to sixteen digits before the point.
A whole number keeps `.0`, so that its text is still that of a float.
-/
def valueLayout : Layout where
  leastPlain := -4
  mostPlain := 15
  wholeFraction := ['0']
  exponentMark := 'e'

/-- The text of a finite number without its sign. -/
def magnitudeText (mantissa : Nat) (exponent : Int) : List Char :=
  if mantissa = 0 then ['0', '.', '0']
  else
    let (digits, power) := shortest mantissa exponent
    valueLayout.positive digits power

/-- The text of a float as a value. -/
def floatText (x : Float) : String :=
  match Binary.ofFloat x with
  | .nan => "nan"
  | .infinite negative => if negative then "-inf" else "inf"
  | .finite negative mantissa exponent =>
    let text := magnitudeText mantissa exponent
    String.ofList (if negative then '-' :: text else text)

end Formula.Number
