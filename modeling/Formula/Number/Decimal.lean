import Formula.Text.Classes
import Formula.Number.Binary

/-!
# Decimal numbers

The decimal spelling of a number, and the float nearest to it.  A spelling is
an optional sign, digits, an optional fraction and an optional exponent.
-/

namespace Formula.Number

open Formula.Text

/-- The number `± digits * 10 ^ exponent`. -/
structure Decimal where
  negative : Bool
  digits : Nat
  exponent : Int
  deriving DecidableEq, Repr

namespace Decimal

/-- An optional sign in front of a text, and what follows it. -/
def splitSign : List Char → Bool × List Char
  | '-' :: rest => (true, rest)
  | '+' :: rest => (false, rest)
  | rest => (false, rest)

/-- The whole number that a text of one or more digits spells. -/
def ofDigits? (chars : List Char) : Option Nat :=
  if !chars.isEmpty && chars.all isDecimal then some (ofDigits 10 chars) else none

/-- The whole number that a text of digits behind an optional sign spells. -/
def ofInteger? (chars : List Char) : Option Int :=
  let (negative, digits) := splitSign chars
  (ofDigits? digits).map (Binary.signed negative)

/-- An exponent that has reached this limit takes no further digit. -/
def exponentLimit : Nat := 65536

/-- An exponent after one more digit: ten times as large, unless at its limit. -/
def withDigit (exponent : Nat) (digit : Char) : Nat :=
  if exponent < exponentLimit then
    exponent * 10 + (digitValue? digit).getD 0
  else
    exponent

/--
The exponent that digits spell, read from the left.  Digits past the limit no
longer count, so that the exponent stays small; only a mantissa of as many
places could tell the difference.
-/
def exponentOfDigits (digits : List Char) : Nat :=
  digits.foldl withDigit 0

/-- The exponent that a text of digits behind an optional sign spells. -/
def ofExponent? (chars : List Char) : Option Int :=
  let (negative, digits) := splitSign chars
  (ofDigits? digits).map fun _ => Binary.signed negative (exponentOfDigits digits)

/-- The characters before and after the first one that satisfies `p`. -/
def splitFirst
    (p : Char → Bool)
    (chars : List Char) :
    List Char × Option (List Char) :=
  match chars.dropWhile (!p ·) with
  | [] => (chars, none)
  | _ :: rest => (chars.takeWhile (!p ·), some rest)

/-- The number that a decimal spelling denotes. -/
def ofChars? (chars : List Char) : Option Decimal := do
  let (negative, unsigned) := splitSign chars
  let (mantissa, power) := splitFirst (fun c => c == 'e' || c == 'E') unsigned
  let (whole, fraction) := splitFirst (· == '.') mantissa
  let exponent ← (power.map ofExponent?).getD (some 0)
  let _ ← ofDigits? whole
  match fraction with
  | none => return ⟨negative, ofDigits 10 whole, exponent⟩
  | some places =>
    let _ ← ofDigits? places
    return ⟨negative, ofDigits 10 (whole ++ places), exponent - places.length⟩

/-- The float nearest to the number, ties to an even mantissa. -/
def toFloat (decimal : Decimal) : Float :=
  let magnitude := .ofModel (.ofScientific decimal.digits decimal.exponent)
  if decimal.negative then -magnitude else magnitude

theorem le_foldl_digits
    (start : Nat)
    (digits : List Char) :
    start ≤
      digits.foldl (fun sum c => sum * 10 + (digitValue? c).getD 0) start := by
  induction digits generalizing start with
  | nil => exact Nat.le_refl start
  | cons digit rest larger =>
    have step := larger (start * 10 + (digitValue? digit).getD 0)
    simp only [List.foldl_cons]
    omega

/-- An exponent that no digit takes past the limit is read in full. -/
theorem exponentOfDigits_eq_ofDigits
    {digits : List Char}
    (short : ofDigits 10 digits < exponentLimit * 10) :
    exponentOfDigits digits = ofDigits 10 digits := by
  suffices agree : ∀ start,
      digits.foldl (fun sum c => sum * 10 + (digitValue? c).getD 0) start <
          exponentLimit * 10 →
        digits.foldl withDigit start =
          digits.foldl (fun sum c => sum * 10 + (digitValue? c).getD 0) start from
    agree 0 short
  clear short
  induction digits with
  | nil => exact fun _ _ => rfl
  | cons digit rest agree =>
    intro start short
    have grown := le_foldl_digits (start * 10 + (digitValue? digit).getD 0) rest
    simp only [List.foldl_cons] at short ⊢
    have below : start < exponentLimit := by omega
    rw [withDigit, if_pos below]
    exact agree _ short

end Decimal

/-- The float nearest to the number that a decimal spelling denotes. -/
def floatOfChars? (chars : List Char) : Option Float :=
  (Decimal.ofChars? chars).map Decimal.toFloat

end Formula.Number
