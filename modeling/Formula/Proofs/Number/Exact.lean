import Formula.Proofs.Number.Order
import Mathlib.Algebra.Order.Field.Power
import Mathlib.Algebra.Order.Field.Rat
import Mathlib.Tactic.GCongr
import Mathlib.Tactic.Ring

/-!
# The exact values of floats

A float that is finite is a rational number, a whole mantissa times a power of two
under a sign.  Two finite floats are in the order of these numbers, since their
ranks are.  So what floats are compared with is decided by rational arithmetic.
-/

namespace Formula.Number

open Float.Model
open Float.Model.UnpackedFloat (Sign)

/-! ## Values -/

/-- The rational number that the parts of a float stand for. -/
def partsRational? : UnpackedFloat → Option ℚ
  | .zero _ => some 0
  | .finite sign mantissa exponent _ =>
    some ((sign.apply mantissa : ℤ) * 2 ^ exponent)
  | .infinity _ | .notANumber => none

/-- The rational number that a float is, unless it is an infinity or no number. -/
def rational? (x : Float) : Option ℚ :=
  partsRational? x.toModel.unpack

section

variable {m m' : Nat} {e e' : Int}

theorem rational_apply
    (sign : Sign)
    (m : Nat)
    (e : Int) :
    ((sign.apply m : ℤ) : ℚ) * 2 ^ e = match sign with
      | .positive => (m : ℚ) * 2 ^ e
      | .negative => -((m : ℚ) * 2 ^ e) := by
  cases sign with
  | positive => exact congrArg (· * _) (Int.cast_natCast m)
  | negative =>
      show (((-(m : ℤ)) : ℤ) : ℚ) * _ = _
      rw [Int.cast_neg, Int.cast_natCast, neg_mul]

theorem magnitude_pos (positive : 0 < m) : 0 < (m : ℚ) * 2 ^ e :=
  mul_pos (Nat.cast_pos.mpr positive) (zpow_pos two_pos e)

end

/-! ## Order -/

section

variable {sign sign' : Sign} {m m' : Nat} {e e' : Int} {positive : 0 < m}
  {positive' : 0 < m'}
variable (canonical : Canonical (.finite sign m e positive))
variable (canonical' : Canonical (.finite sign' m' e' positive'))
include canonical canonical'

/-- A greater exponent makes up for any mantissa. -/
theorem magnitude_lt_of_exponent_lt (less : e < e') :
    (m : ℚ) * 2 ^ e < m' * 2 ^ e' := by
  rcases canonical with ⟨below, least, -, -⟩
  rcases canonical' with ⟨-, -, -, isFull⟩
  -- Only with the least exponent may a mantissa have fewer than 53 bits.
  have full : 2 ^ 52 ≤ m' := isFull.resolve_right (by omega)
  calc (m : ℚ) * 2 ^ e
      < 2 ^ 53 * 2 ^ e := by
        gcongr
        exact_mod_cast below
    _ = 2 ^ 52 * 2 ^ (e + 1) := by
        rw [zpow_add_one₀ two_ne_zero]
        ring
    _ ≤ m' * 2 ^ e' := by
        have full' : (2 : ℚ) ^ 52 ≤ m' := by exact_mod_cast full
        have next : (2 : ℚ) ^ (e + 1) ≤ 2 ^ e' :=
          zpow_le_zpow_right₀ one_le_two less
        exact mul_le_mul full' next (zpow_pos two_pos _).le (Nat.cast_nonneg m')

/-- The rank of a finite float says which of two is the greater number. -/
theorem magnitude_lt_of_rank_lt (less : magnitudeRank m e < magnitudeRank m' e') :
    (m : ℚ) * 2 ^ e < m' * 2 ^ e' := by
  rcases lt_trichotomy e e' with lessExponent | rfl | greater
  · exact magnitude_lt_of_exponent_lt canonical canonical' lessExponent
  · have lessMantissa : m < m' := by
      rw [magnitudeRank, magnitudeRank] at less
      omega
    gcongr
  · exact absurd less (magnitudeRank_lt canonical' canonical (.inl greater)).not_gt

theorem magnitude_eq_of_rank_eq (same : magnitudeRank m e = magnitudeRank m' e') :
    (m : ℚ) * 2 ^ e = m' * 2 ^ e' := by
  obtain ⟨rfl, rfl⟩ := eq_of_magnitudeRank_eq canonical canonical' same
  rfl

end

section

variable {u v : UnpackedFloat} {p q : ℚ}

/-- The greater rank belongs to the greater number. -/
theorem partsRational_lt_of_rank_lt
    (canonical : Canonical u)
    (canonical' : Canonical v)
    (isRational : partsRational? u = some p)
    (isRational' : partsRational? v = some q)
    (less : partsRank u < partsRank v) :
    p < q := by
  cases u with
  | infinity | notANumber => cases isRational
  | zero sign =>
      obtain rfl := Option.some.inj isRational
      cases v with
      | infinity | notANumber => cases isRational'
      | zero => exact absurd less (Int.lt_irrefl 0)
      | finite sign' m' e' positive' =>
          obtain rfl := Option.some.inj isRational'
          rw [rational_apply]
          cases sign' with
          | positive => exact magnitude_pos positive'
          | negative =>
              have negativeRank :=
                Int.neg_neg_of_pos (magnitudeRank_pos canonical')
              exact absurd less negativeRank.not_gt
  | finite sign m e positive =>
      obtain rfl := Option.some.inj isRational
      have positiveRank := magnitudeRank_pos canonical
      rw [rational_apply]
      cases v with
      | infinity | notANumber => cases isRational'
      | zero =>
          obtain rfl := Option.some.inj isRational'
          cases sign with
          | negative => exact neg_lt_zero.mpr (magnitude_pos positive)
          | positive => exact absurd less positiveRank.not_gt
      | finite sign' m' e' positive' =>
          obtain rfl := Option.some.inj isRational'
          have positiveRank' := magnitudeRank_pos canonical'
          rw [rational_apply]
          cases sign <;> cases sign'
          case negative.negative =>
            exact neg_lt_neg
              (magnitude_lt_of_rank_lt canonical' canonical
                (Int.neg_lt_neg_iff.mp less))
          case negative.positive =>
            exact (neg_lt_zero.mpr (magnitude_pos positive)).trans
              (magnitude_pos positive')
          case positive.negative =>
            have less' : magnitudeRank m e < -magnitudeRank m' e' := less
            omega
          case positive.positive =>
              exact magnitude_lt_of_rank_lt canonical canonical' less

/-- Only zeros have the rank of zero, and the rank determines all else. -/
theorem partsRational_eq_of_rank_eq
    (canonical : Canonical u)
    (canonical' : Canonical v)
    (isRational : partsRational? u = some p)
    (isRational' : partsRational? v = some q)
    (same : partsRank u = partsRank v) :
    p = q := by
  cases u with
  | infinity | notANumber => cases isRational
  | zero sign =>
      obtain rfl := Option.some.inj isRational
      cases v with
      | infinity | notANumber => cases isRational'
      | zero => exact Option.some.inj isRational'
      | finite sign' m' e' positive' =>
          have positiveRank' := magnitudeRank_pos canonical'
          cases sign' with
          | negative => exact absurd same (Int.neg_neg_of_pos positiveRank').ne'
          | positive => exact absurd same positiveRank'.ne
  | finite sign m e positive =>
      obtain rfl := Option.some.inj isRational
      have positiveRank := magnitudeRank_pos canonical
      cases v with
      | infinity | notANumber => cases isRational'
      | zero =>
          cases sign with
          | negative => exact absurd same (Int.neg_neg_of_pos positiveRank).ne
          | positive => exact absurd same positiveRank.ne'
      | finite sign' m' e' positive' =>
          obtain rfl := Option.some.inj isRational'
          have positiveRank' := magnitudeRank_pos canonical'
          rw [rational_apply, rational_apply]
          cases sign <;> cases sign'
          case negative.negative =>
            exact congrArg Neg.neg
              (magnitude_eq_of_rank_eq canonical canonical' (Int.neg_inj.mp same))
          case positive.positive =>
              exact magnitude_eq_of_rank_eq canonical canonical' same
          case negative.positive =>
            have same' : -magnitudeRank m e = magnitudeRank m' e' := same
            omega
          case positive.negative =>
            have same' : magnitudeRank m e = -magnitudeRank m' e' := same
            omega

end

section

variable {x y : Float} {p q : ℚ}

theorem isNaN_of_rational
    (isRational : rational? x = some p) :
    x.isNaN = false := by
  show x.toModel.unpack.isNaN = false
  rw [rational?] at isRational
  cases parts : x.toModel.unpack with
  | notANumber =>
      rw [parts] at isRational
      cases isRational
  | _ => rfl

variable (isRational : rational? x = some p) (isRational' : rational? y = some q)
include isRational isRational'

theorem rational_lt_iff_rank_lt : p < q ↔ rank x < rank y := by
  have canonical := canonical_unpack x.toModel.toBits.toBitVec
  have canonical' := canonical_unpack y.toModel.toBits.toBitVec
  rcases lt_trichotomy (rank x) (rank y) with less | same | greater
  · have less' :=
      partsRational_lt_of_rank_lt canonical canonical' isRational isRational' less
    exact iff_of_true less' less
  · obtain rfl :=
      partsRational_eq_of_rank_eq canonical canonical' isRational isRational' same
    exact iff_of_false (lt_irrefl p) same.not_lt
  · have greater' := partsRational_lt_of_rank_lt canonical' canonical isRational'
      isRational greater
    exact iff_of_false greater'.not_gt greater.not_gt

/-- Finite floats are in the order of the numbers that they are. -/
theorem lt_iff_rational_lt : x < y ↔ p < q := by
  rw [rational_lt_iff_rank_lt isRational isRational',
    lt_iff_rank_lt (isNaN_of_rational isRational) (isNaN_of_rational isRational')]

theorem le_iff_rational_le : x ≤ y ↔ p ≤ q := by
  rw [← not_lt, rational_lt_iff_rank_lt isRational' isRational, not_lt,
    le_iff_rank_le (isNaN_of_rational isRational) (isNaN_of_rational isRational')]

end

/-- What is no finite number is not between finite ones. -/
theorem not_between_of_infinite
    {x low high : Float}
    {p q : ℚ}
    (notFinite : rational? x = none)
    (isLow : rational? low = some p)
    (isHigh : rational? high = some q) :
    ¬(low ≤ x ∧ x < high) := by
  rw [le_iff_floatOrdering?, lt_iff_floatOrdering?]
  show ¬((low.toModel.unpack.compare x.toModel.unpack).any (·.isLE) = true ∧
    x.toModel.unpack.compare high.toModel.unpack = some .lt)
  rw [rational?] at notFinite isLow isHigh
  generalize x.toModel.unpack = u at notFinite
  generalize low.toModel.unpack = v at isLow
  generalize high.toModel.unpack = w at isHigh
  cases u with
  | zero | finite => cases notFinite
  | notANumber => exact fun between => nomatch between.2
  | infinity sign =>
      cases sign with
      | positive =>
          cases w with
          | zero | finite => exact fun between => nomatch between.2
          | infinity | notANumber => cases isHigh
      | negative =>
          cases v with
          | zero | finite => exact fun between => nomatch between.1
          | infinity | notANumber => cases isLow

end Formula.Number
