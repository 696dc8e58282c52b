import Formula.Eval.Operator
import Mathlib.Algebra.Order.Ring.Int
import Mathlib.Order.Compare

/-!
# The order of floats

A float that is a number has a rank among all floats: it says how many floats
there are between zero and this one, and is negative below zero.  Both zeros have
rank zero, and the infinities come last.  Floats are compared like their ranks,
since the exponent counts for more than any mantissa.
-/

namespace Formula.Number

open Float.Model
open Float.Model.UnpackedFloat (Sign)

/-! ## Ranks -/

/-- The parts of a float are in the form that its bits spell: the mantissa fills
its bits, unless the exponent is the least one. -/
def Canonical : UnpackedFloat → Prop
  | .finite _ mantissa exponent _ =>
    mantissa < 2 ^ 53 ∧ -1074 ≤ exponent ∧ exponent ≤ 971 ∧
      (2 ^ 52 ≤ mantissa ∨ exponent = -1074)
  | _ => True

/-- The rank of a finite positive float. -/
def magnitudeRank (mantissa : Nat) (exponent : Int) : Int :=
  (exponent + 1074) * 2 ^ 52 + mantissa

/-- The rank of a float, from its parts. -/
def partsRank : UnpackedFloat → Int
  | .notANumber | .zero _ => 0
  | .infinity sign => sign.apply (2 ^ 63)
  | .finite sign mantissa exponent _ =>
    sign.apply (magnitudeRank mantissa exponent)

/-- How many floats there are between zero and this one, with its sign. -/
def rank (x : Float) : Int :=
  partsRank x.toModel.unpack

section

variable {sign sign' : Sign} {m m' : Nat} {e e' : Int} {positive : 0 < m}
  {positive' : 0 < m'}
variable (canonical : Canonical (.finite sign m e positive))
include canonical

theorem magnitudeRank_pos : 0 < magnitudeRank m e := by
  rcases canonical with ⟨-, least, -, -⟩
  rw [magnitudeRank]
  omega

/-- Finite floats are between the infinities. -/
theorem apply_magnitudeRank_bounds (sign : Sign) :
    -2 ^ 63 < sign.apply (magnitudeRank m e) ∧
      sign.apply (magnitudeRank m e) < 2 ^ 63 := by
  have positiveRank := magnitudeRank_pos canonical
  have finiteRank : magnitudeRank m e < 2 ^ 63 := by
    rcases canonical with ⟨below, -, greatest, -⟩
    rw [magnitudeRank]
    omega
  cases sign
  all_goals
    simp only [Sign.apply]
    omega

/-- Of two mantissas, the one with the greater exponent belongs to the greater
number. -/
theorem magnitudeRank_lt
    (canonical' : Canonical (.finite sign' m' e' positive'))
    (less : e < e' ∨ e = e' ∧ m < m') :
    magnitudeRank m e < magnitudeRank m' e' := by
  rcases canonical with ⟨below, least, -, isFull⟩
  rcases canonical' with ⟨below', least', -, isFull'⟩
  rw [magnitudeRank, magnitudeRank]
  omega

/-- The rank of a finite float determines its mantissa and its exponent. -/
theorem eq_of_magnitudeRank_eq
    (canonical' : Canonical (.finite sign' m' e' positive'))
    (same : magnitudeRank m e = magnitudeRank m' e') :
    m = m' ∧ e = e' := by
  rcases lt_trichotomy e e' with less | sameExponent | greater
  · exact absurd same (magnitudeRank_lt canonical canonical' (.inl less)).ne
  · subst sameExponent
    exact ⟨Int.ofNat.inj (Int.add_left_cancel same), rfl⟩
  · exact absurd same (magnitudeRank_lt canonical' canonical (.inl greater)).ne'

theorem compare_magnitudeRank
    (canonical' : Canonical (.finite sign' m' e' positive')) :
    (compare e e').then (compare m m') =
      compare (magnitudeRank m e) (magnitudeRank m' e') := by
  rcases lt_trichotomy e e' with less | same | greater
  · rw [compare_lt_iff_lt.mpr less,
      compare_lt_iff_lt.mpr (magnitudeRank_lt canonical canonical' (.inl less))]
    rfl
  · rw [compare_eq_iff_eq.mpr same, Ordering.eq_then]
    rcases lt_trichotomy m m' with less | sameMantissa | greater
    · rw [compare_lt_iff_lt.mpr less,
        compare_lt_iff_lt.mpr
          (magnitudeRank_lt canonical canonical' (.inr ⟨same, less⟩))]
    · rw [same, sameMantissa, compare_eq_iff_eq.mpr rfl, compare_eq_iff_eq.mpr rfl]
    · rw [compare_gt_iff_gt.mpr greater,
        compare_gt_iff_gt.mpr
          (magnitudeRank_lt canonical' canonical (.inr ⟨same.symm, greater⟩))]
  · rw [compare_gt_iff_gt.mpr greater,
      compare_gt_iff_gt.mpr (magnitudeRank_lt canonical' canonical (.inl greater))]
    rfl

end

theorem compare_neg_neg (a b : Int) : compare (-a) (-b) = (compare a b).swap := by
  rcases lt_trichotomy a b with less | same | greater
  · rw [compare_lt_iff_lt.mpr less, compare_gt_iff_gt.mpr (Int.neg_lt_neg less)]
    rfl
  · rw [same, compare_eq_iff_eq.mpr rfl, compare_eq_iff_eq.mpr rfl]
    rfl
  · rw [compare_gt_iff_gt.mpr greater,
      compare_lt_iff_lt.mpr (Int.neg_lt_neg greater)]
    rfl

/-- Numbers are compared like their ranks. -/
theorem compare_eq_compare_partsRank
    {u v : UnpackedFloat}
    (canonical : Canonical u)
    (canonical' : Canonical v)
    (isNumber : u.isNaN = false)
    (isNumber' : v.isNaN = false) :
    u.compare v = some (compare (partsRank u) (partsRank v)) := by
  have lt {a b : Int} (less : a < b) : some Ordering.lt = some (compare a b) :=
    congrArg some (compare_lt_iff_lt.mpr less).symm
  have gt {a b : Int} (greater : b < a) : some Ordering.gt = some (compare a b) :=
    congrArg some (compare_gt_iff_gt.mpr greater).symm
  cases u with
  | notANumber => cases isNumber
  | infinity sign =>
      cases v with
      | notANumber => cases isNumber'
      | infinity sign' => cases sign <;> cases sign' <;> rfl
      | zero sign' => cases sign <;> rfl
      | finite sign' m' e' positive' =>
          have bounds := apply_magnitudeRank_bounds canonical' sign'
          cases sign with
          | negative => exact lt bounds.1
          | positive => exact gt bounds.2
  | zero sign =>
      cases v with
      | notANumber => cases isNumber'
      | infinity sign' => cases sign' <;> rfl
      | zero sign' => rfl
      | finite sign' m' e' positive' =>
          have positiveRank := magnitudeRank_pos canonical'
          cases sign' with
          | negative => exact gt (Int.neg_neg_of_pos positiveRank)
          | positive => exact lt positiveRank
  | finite sign m e positive =>
      have positiveRank := magnitudeRank_pos canonical
      cases v with
      | notANumber => cases isNumber'
      | infinity sign' =>
          have bounds := apply_magnitudeRank_bounds canonical sign
          cases sign' with
          | negative => cases sign <;> exact gt bounds.1
          | positive => cases sign <;> exact lt bounds.2
      | zero sign' =>
          cases sign with
          | negative => exact lt (Int.neg_neg_of_pos positiveRank)
          | positive => exact gt positiveRank
      | finite sign' m' e' positive' =>
          have positiveRank' := magnitudeRank_pos canonical'
          have sameOrder := compare_magnitudeRank canonical canonical'
          cases sign <;> cases sign'
          case negative.negative =>
            exact congrArg some
              ((congrArg _ sameOrder).trans (compare_neg_neg _ _).symm)
          case negative.positive =>
            exact lt ((Int.neg_neg_of_pos positiveRank).trans positiveRank')
          case positive.negative =>
            exact gt ((Int.neg_neg_of_pos positiveRank').trans positiveRank)
          case positive.positive => exact congrArg some sameOrder

/-! ## Floats -/

/-- The bit in front of the mantissa bits stands for all that they can count. -/
theorem toNat_implicit_append
    {width : Nat}
    (mantissa : BitVec width) :
    (1#1 ++ mantissa).toNat = 2 ^ width + mantissa.toNat := by
  rw [BitVec.toNat_append, ← Nat.shiftLeft_add_eq_or_of_lt mantissa.isLt,
    Nat.shiftLeft_eq]
  exact congrArg (· + _) (Nat.one_mul _)

/-- Bits spell the parts of a float in one form. -/
theorem canonical_unpack (bits : BitVec Format.binary64.numBits) :
    Canonical (UnpackedFloat.unpack .binary64 bits) := by
  have mantissaBound : (UnpackedFloat.unpackMantissa bits).toNat < 2 ^ 52 :=
    BitVec.isLt _
  have exponentBound : (UnpackedFloat.unpackExponent bits).toNat < 2 ^ 11 :=
    BitVec.isLt _
  have bias : (Format.binary64.exponentBias : Int) = 1023 := rfl
  delta UnpackedFloat.unpack
  dsimp only
  by_cases allOnes : UnpackedFloat.unpackExponent bits = -1#_
  · rw [if_pos allOnes]
    exact iteInduction (fun _ => trivial) fun _ => trivial
  have belowOnes : (UnpackedFloat.unpackExponent bits).toNat ≠ 2 ^ 11 - 1 :=
    fun same => allOnes (BitVec.eq_of_toNat_eq same)
  rw [if_neg allOnes]
  by_cases isLeast : UnpackedFloat.unpackExponent bits = 0#_
  · have least : (UnpackedFloat.unpackExponent bits).toNat = 0 := by
      rw [isLeast]
      rfl
    rw [if_pos isLeast]
    by_cases isZero : UnpackedFloat.unpackMantissa bits = 0#_
    · rw [dif_pos isZero]
      exact trivial
    · rw [dif_neg isZero]
      refine ⟨?_, ?_, ?_, .inr ?_⟩ <;> omega
  · have aboveLeast : (UnpackedFloat.unpackExponent bits).toNat ≠ 0 :=
      fun same => isLeast (BitVec.eq_of_toNat_eq same)
    have implicit : (1#1 ++ UnpackedFloat.unpackMantissa bits).toNat =
        2 ^ 52 + (UnpackedFloat.unpackMantissa bits).toNat :=
      toNat_implicit_append _
    rw [if_neg isLeast]
    refine ⟨?_, ?_, ?_, .inl ?_⟩ <;> omega

section

variable (x y : Float)

theorem lt_iff_floatOrdering? : x < y ↔ Eval.floatOrdering? x y = some .lt := by
  show decide ((x.toModel.compare y.toModel == some .lt) = true) = true ↔ _
  rw [decide_eq_true_iff, beq_iff_eq]
  rfl

theorem le_iff_floatOrdering? :
    x ≤ y ↔ (Eval.floatOrdering? x y).any (·.isLE) = true := by
  show decide ((x.toModel.compare y.toModel).any (·.isLE) = true) = true ↔ _
  rw [decide_eq_true_iff]
  rfl

end

section

variable {x y : Float} (isNumber : x.isNaN = false) (isNumber' : y.isNaN = false)
include isNumber isNumber'

/-- Floats that are numbers are in the order of their ranks. -/
theorem floatOrdering?_eq_compare_rank :
    Eval.floatOrdering? x y = some (compare (rank x) (rank y)) :=
  compare_eq_compare_partsRank (canonical_unpack _) (canonical_unpack _)
    isNumber isNumber'

theorem lt_iff_rank_lt : x < y ↔ rank x < rank y := by
  rw [lt_iff_floatOrdering?, floatOrdering?_eq_compare_rank isNumber isNumber',
    Option.some_inj, compare_lt_iff_lt]

theorem le_iff_rank_le : x ≤ y ↔ rank x ≤ rank y := by
  rw [le_iff_floatOrdering?, floatOrdering?_eq_compare_rank isNumber isNumber',
    Option.any_some, Std.isLE_compare]

end

/-- What is no number is in no order with anything. -/
theorem floatOrdering?_eq_none
    {x y : Float}
    (noNumber : x.isNaN = true ∨ y.isNaN = true) :
    Eval.floatOrdering? x y = none := by
  have noNumber' : x.toModel.unpack.isNaN = true ∨ y.toModel.unpack.isNaN = true :=
    noNumber
  show x.toModel.unpack.compare y.toModel.unpack = none
  generalize x.toModel.unpack = u at noNumber'
  generalize y.toModel.unpack = v at noNumber'
  rcases noNumber' with noNumber' | noNumber'
  · cases u <;> first | rfl | cases noNumber'
  · cases v <;> first | cases u <;> rfl | cases noNumber'

/-- Swapped floats are in the opposite order. -/
theorem floatOrdering?_swap (x y : Float) :
    Eval.floatOrdering? y x = (Eval.floatOrdering? x y).map Ordering.swap := by
  cases isNumber : x.isNaN with
  | true =>
      rw [floatOrdering?_eq_none (.inl isNumber),
        floatOrdering?_eq_none (.inr isNumber)]
      rfl
  | false =>
      cases isNumber' : y.isNaN with
      | true =>
          rw [floatOrdering?_eq_none (.inl isNumber'),
            floatOrdering?_eq_none (.inr isNumber')]
          rfl
      | false =>
          rw [floatOrdering?_eq_compare_rank isNumber isNumber',
            floatOrdering?_eq_compare_rank isNumber' isNumber, Option.map_some,
            ← Std.OrientedOrd.eq_swap]

end Formula.Number
