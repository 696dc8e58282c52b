import Formula.Proofs.Number.Exact
import Formula.Proofs.Number.Rounding
import Mathlib.Data.Rat.Floor

/-!
# Truncation

A finite float without its fraction is a float again: where the fraction has bits
at all, the whole part has fewer than 53.  The words lie between the float of the
least one, which is this word, and the float of the greatest one, which is the
number behind it.  A float that lies there comes to the word of its whole part.
-/

namespace Formula.Number

open Float.Model
open Float.Model.UnpackedFloat (Sign ExtendedMantissa)

/-- The whole number next to a rational one on the side of zero. -/
def truncated (q : ℚ) : ℤ :=
  if 0 ≤ q then ⌊q⌋ else ⌈q⌉

@[simp]
theorem truncated_intCast (n : ℤ) : truncated n = n := by
  rw [truncated, Int.floor_intCast, Int.ceil_intCast, ite_self]

/-! ## Whole parts -/

theorem floor_magnitude
    (m : Nat)
    (e : ℤ) :
    ⌊(m : ℚ) * 2 ^ e⌋ = Binary.floor m e := by
  rw [Binary.floor]
  split
  case isTrue nonneg =>
    obtain ⟨k, rfl⟩ := Int.eq_ofNat_of_zero_le nonneg
    rw [zpow_natCast]
    exact_mod_cast Int.floor_natCast (m * 2 ^ k)
  case isFalse negative =>
    obtain ⟨k, rfl⟩ := Int.exists_eq_neg_ofNat (Int.not_le.mp negative).le
    rw [zpow_neg, zpow_natCast, ← div_eq_mul_inv, Int.neg_neg, Int.toNat_natCast]
    exact_mod_cast Rat.floor_natCast_div_natCast m (2 ^ k)

/-- The whole part of a finite float is that of its magnitude, with the same
sign. -/
theorem truncated_apply
    (sign : Sign)
    (m : Nat)
    (e : ℤ) :
    truncated ((sign.apply m : ℤ) * 2 ^ e) = sign.apply (Binary.floor m e) := by
  have nonneg : 0 ≤ (m : ℚ) * 2 ^ e :=
    mul_nonneg (Nat.cast_nonneg m) (zpow_pos two_pos e).le
  rw [rational_apply]
  cases sign with
  | positive =>
      dsimp only
      rw [truncated, if_pos nonneg, floor_magnitude]
      rfl
  | negative =>
      dsimp only
      rw [truncated, Int.ceil_neg, floor_magnitude]
      split
      case isFalse => rfl
      case isTrue nonpos =>
        have isZero : (m : ℚ) * 2 ^ e = 0 :=
          le_antisymm (neg_nonneg.mp nonpos) nonneg
        have noWhole : (Binary.floor m e : ℤ) = 0 := by
          rw [← floor_magnitude, isZero, Int.floor_zero]
        rw [isZero, neg_zero, Int.floor_zero, noWhole]
        rfl

/-- A mantissa below a power of two loses at least one bit with its fraction. -/
theorem floor_le
    {m : Nat}
    {e : ℤ}
    (negative : e < 0) :
    Binary.floor m e ≤ m := by
  rw [Binary.floor, if_neg negative.not_ge]
  exact Nat.div_le_self m _

/-- Dropping the bits behind the point leaves the whole part. -/
theorem roundToInt_eq
    (sign : Sign)
    (m : Nat)
    (e : ℤ) :
    UnpackedFloat.roundToInt sign m e = sign.apply (Binary.floor m e) := by
  have cut := Cut.shiftRight (m <<< (e - 0).toNat) (0 - (e - (e - 0).toNat)).toNat
  have whole : (m <<< (e - 0).toNat) / 2 ^ (0 - (e - (e - 0).toNat)).toNat =
      Binary.floor m e := by
    rw [Binary.floor, Nat.shiftLeft_eq]
    split
    case isTrue nonneg =>
      have none : (0 - (e - (e - 0).toNat)).toNat = 0 := by omega
      rw [none, Nat.pow_zero, Nat.div_one, Int.sub_zero]
      rfl
    case isFalse negative =>
      have none : (e - 0).toNat = 0 := by omega
      rw [none, Nat.pow_zero, Nat.mul_one, Nat.cast_zero, Int.sub_zero,
        Int.zero_sub]
      rfl
  rw [← whole, ← cut.mantissa_eq]
  rfl

/-! ## Whole numbers as floats -/

section

variable {sign sign' : Sign} {n mantissa : Nat} {exponent : ℤ}
  {notZero : 0 < mantissa}

/-- The float of an integer, from a mantissa and an exponent that have its rank. -/
theorem rational?_ofInt_apply
    (positive : 0 < n)
    (inRange : n < 2 ^ 64)
    (canonical : Canonical (.finite sign' mantissa exponent notZero))
    (sameRank : magnitudeRank mantissa exponent = naturalRank n) :
    rational? (ofInt (sign.apply n)) =
      some (((sign.apply mantissa : ℤ) : ℚ) * 2 ^ exponent) := by
  rcases unpack_ofInt_apply sign positive inRange with
    ⟨mantissa', exponent', notZero', parts, canonical', -, isRank, -⟩
  obtain ⟨rfl, rfl⟩ :=
    eq_of_magnitudeRank_eq canonical canonical' (sameRank.trans isRank.symm)
  rw [rational?, parts]
  rfl

end

/-- Integers of no more than 53 bits are floats themselves. -/
theorem rational?_ofInt
    {n : ℤ}
    (short : n.natAbs < 2 ^ 53) :
    rational? (ofInt n) = some (n : ℚ) := by
  rcases eq_or_ne n 0 with rfl | notZero
  · rfl
  obtain ⟨sign, k, positive, rfl⟩ := exists_sign_apply notZero
  rw [natAbs_apply] at short
  have length : k.log2 ≤ 52 :=
    Nat.lt_succ_iff.mp ((Nat.log2_lt positive.ne').mpr short)
  have isFull := (nearestMantissa_bounds positive).1
  rcases nearestMantissa_of_lt positive short with ⟨isShifted, below⟩
  have canonical : Canonical (.finite .positive (nearestMantissa k) (k.log2 - 52)
      (Nat.lt_of_lt_of_le (by decide) isFull)) :=
    ⟨below, by omega, by omega, .inl isFull⟩
  rw [rational?_ofInt_apply positive (by omega) canonical rfl, rational_apply,
    isShifted, Nat.shiftLeft_eq]
  have powers : (2 : ℚ) ^ (52 - k.log2) * 2 ^ ((k.log2 : ℤ) - 52) = 1 := by
    rw [← zpow_natCast, ← zpow_add₀ two_ne_zero, Nat.cast_sub length]
    exact (congrArg _ (by omega)).trans (zpow_zero 2)
  have magnitude :
      ((k * 2 ^ (52 - k.log2) : Nat) : ℚ) * 2 ^ ((k.log2 : ℤ) - 52) = k := by
    rw [Nat.cast_mul, Nat.cast_pow, Nat.cast_ofNat, mul_assoc, powers, mul_one]
  cases sign with
  | positive => exact congrArg some (magnitude.trans (Int.cast_natCast k).symm)
  | negative =>
      refine congrArg some ((congrArg Neg.neg magnitude).trans ?_)
      exact ((Int.cast_neg _).trans (congrArg Neg.neg (Int.cast_natCast k))).symm

/-! ## Truncation of floats -/

/-- A whole number with its sign comes to the float of the integer. -/
theorem toFloat_isMinus
    (sign : Sign)
    {n : Nat}
    (positive : 0 < n) :
    Binary.toFloat (Binary.isMinus sign) n 0 = ofInt (sign.apply n) := by
  have sameSign :
      (if Binary.isMinus sign then Sign.negative else .positive) = sign := by
    cases sign <;> rfl
  rw [Binary.toFloat, sameSign, if_neg positive.ne',
    ← unpackedOfInt_apply sign positive]
  rfl

theorem rational?_toFloat
    (sign : Sign)
    {n : Nat}
    (short : n < 2 ^ 53) :
    rational? (Binary.toFloat (Binary.isMinus sign) n 0) =
      some ((sign.apply n : ℤ) : ℚ) := by
  rcases Nat.eq_zero_or_pos n with rfl | positive
  · cases sign <;> rfl
  · rw [toFloat_isMinus sign positive]
    apply rational?_ofInt
    rw [natAbs_apply]
    exact short

/-- A float without its fraction is the whole part of the number that it is. -/
theorem rational?_truncate
    {x : Float}
    {q : ℚ}
    (isRational : rational? x = some q) :
    rational? (truncate x) = some (truncated q : ℚ) := by
  have canonical := canonical_unpack x.toModel.toBits.toBitVec
  have canonical' : Canonical x.toModel.unpack := canonical
  have isRational' := isRational
  rw [rational?] at isRational'
  rw [truncate, Binary.ofFloat]
  cases parts : x.toModel.unpack with
  | infinity | notANumber =>
      rw [parts] at isRational'
      cases isRational'
  | zero sign =>
      rw [parts] at isRational'
      obtain rfl := Option.some.inj isRational'
      exact isRational
  | finite sign m e positive =>
      rw [parts] at isRational' canonical'
      obtain rfl := Option.some.inj isRational'
      dsimp only
      split
      case isTrue negative =>
        -- The whole part is no longer than the
        -- mantissa, so that it is not rounded.
        rw [truncated_apply]
        exact rational?_toFloat sign ((floor_le negative).trans_lt canonical'.1)
      case isFalse nonneg =>
        obtain ⟨k, rfl⟩ := Int.eq_ofNat_of_zero_le (Int.not_lt.mp nonneg)
        have isWhole : ((sign.apply m : ℤ) : ℚ) * 2 ^ (k : ℤ) =
            ((sign.apply m * 2 ^ k : ℤ) : ℚ) := by
          rw [zpow_natCast]
          push_cast
          rfl
        rw [isRational, isWhole, truncated_intCast]

/-! ## Words -/

/-- The least word is a float. -/
theorem rational?_minValue :
    rational? (ofInt Int64.minValue.toInt) = some (-2 ^ 63) := by
  have canonical : Canonical (.finite .negative (2 ^ 52) 11 (by decide)) := by
    refine ⟨?_, ?_, ?_, .inl ?_⟩ <;> decide
  have sameRank : magnitudeRank (2 ^ 52) 11 = naturalRank (2 ^ 63) := by
    decide +kernel
  have isFloat : rational? (ofInt (Sign.apply .negative (2 ^ 63 : Nat))) = _ :=
    rational?_ofInt_apply (by decide) (by decide) canonical sameRank
  refine isFloat.trans (congrArg some ?_)
  rw [rational_apply]
  norm_num

/-- The float of the greatest word is the number behind it. -/
theorem rational?_maxValue :
    rational? (ofInt Int64.maxValue.toInt) = some (2 ^ 63) := by
  have canonical : Canonical (.finite .positive (2 ^ 52) 11 (by decide)) := by
    refine ⟨?_, ?_, ?_, .inl ?_⟩ <;> decide
  have sameRank : magnitudeRank (2 ^ 52) 11 = naturalRank (2 ^ 63 - 1) := by
    decide +kernel
  have isFloat : rational? (ofInt (Sign.apply .positive (2 ^ 63 - 1 : Nat))) = _ :=
    rational?_ofInt_apply (by decide) (by decide) canonical sameRank
  refine isFloat.trans (congrArg some ?_)
  rw [rational_apply]
  norm_num

theorem unpackedToInt_eq
    {u : UnpackedFloat}
    {q : ℚ}
    (isRational : partsRational? u = some q)
    (low high : ℤ) :
    u.toInt low high = truncated q := by
  cases u with
  | infinity | notANumber => cases isRational
  | zero sign =>
      obtain rfl := Option.some.inj isRational
      exact (truncated_intCast 0).symm
  | finite sign m e positive =>
      obtain rfl := Option.some.inj isRational
      rw [truncated_apply, ← roundToInt_eq]
      rfl

section

variable {x : Float} {q : ℚ} (isRational : rational? x = some q)
include isRational

/-- A float in the range of words comes to its whole part. -/
theorem toWord_eq
    (atLeast : -2 ^ 63 ≤ truncated q)
    (below : truncated q < 2 ^ 63) :
    toWord x = .ofInt (truncated q) := by
  rw [toWord, UnpackedFloat.toInt64, unpackedToInt_eq isRational,
    ← Int64.toInt_inj, Int64.toInt_ofInt_of_le atLeast below]
  exact Int64.toInt_ofIntClamp atLeast (Int.lt_add_one_iff.mp below)

/-- The floats of the least and of the greatest word tell which whole parts are
words. -/
theorem between_words_iff :
    ofInt Int64.minValue.toInt ≤ truncate x ∧
        truncate x < ofInt Int64.maxValue.toInt ↔
      -2 ^ 63 ≤ truncated q ∧ truncated q < 2 ^ 63 := by
  have isWhole := rational?_truncate isRational
  rw [le_iff_rational_le rational?_minValue isWhole,
    lt_iff_rational_lt isWhole rational?_maxValue]
  exact_mod_cast Iff.rfl

theorem toWord_truncate
    (atLeast : -2 ^ 63 ≤ truncated q)
    (below : truncated q < 2 ^ 63) :
    toWord (truncate x) = .ofInt (truncated q) := by
  have isWord := toWord_eq (rational?_truncate isRational)
  rw [truncated_intCast] at isWord
  exact isWord atLeast below

end

theorem truncate_of_infinite
    {x : Float}
    (notFinite : rational? x = none) :
    truncate x = x := by
  rw [rational?] at notFinite
  rw [truncate, Binary.ofFloat]
  cases parts : x.toModel.unpack with
  | infinity | notANumber => rfl
  | zero | finite =>
      rw [parts] at notFinite
      cases notFinite

/-- What is no finite number is not in the range of words. -/
theorem not_between_words
    {x : Float}
    (notFinite : rational? x = none) :
    ¬(ofInt Int64.minValue.toInt ≤ truncate x ∧
      truncate x < ofInt Int64.maxValue.toInt) := by
  rw [truncate_of_infinite notFinite]
  exact not_between_of_infinite notFinite rational?_minValue rational?_maxValue

end Formula.Number
