import Formula.Number.Decimal

/-!
# Numbers that are read are numbers

The float that a decimal spelling denotes is zero, finite or infinite, and so is
the float with the opposite sign.  Only a bit pattern whose exponent is all ones
and whose mantissa is not zero stands for something else, and rounding makes none.
-/

namespace Formula.Number

open Float.Model
open Float.Model.UnpackedFloat (packComponents)

/-- Bits stand for a number unless their exponent is all ones and their mantissa
is not zero. -/
theorem isNaN_unpack
    {format : Format}
    {bits : BitVec format.numBits}
    (isNumber : UnpackedFloat.unpackExponent bits ≠ BitVec.allOnes _ ∨
      UnpackedFloat.unpackMantissa bits = 0#_) :
    (UnpackedFloat.unpack format bits).isNaN = false := by
  rw [← BitVec.neg_one_eq_allOnes] at isNumber
  delta UnpackedFloat.unpack
  dsimp only
  by_cases allOnes : UnpackedFloat.unpackExponent bits = -1#_
  · rw [if_pos allOnes, if_pos (isNumber.resolve_left (absurd allOnes))]
    rfl
  rw [if_neg allOnes]
  by_cases small : UnpackedFloat.unpackExponent bits = 0#_
  · rw [if_pos small]
    by_cases isZero : UnpackedFloat.unpackMantissa bits = 0#_
    · rw [dif_pos isZero]
      rfl
    · rw [dif_neg isZero]
      rfl
  · rw [if_neg small]
    rfl

theorem isNaN_unpack_packComponents
    {format : Format}
    {sign : UnpackedFloat.Sign}
    {exponent : BitVec format.exponentBits}
    {mantissa : BitVec format.mantissaBitsWithoutImplicit}
    (isNumber : exponent ≠ BitVec.allOnes _ ∨ mantissa = 0#_) :
    (UnpackedFloat.unpack format
      (packComponents format sign exponent mantissa)).isNaN = false := by
  refine isNaN_unpack ?_
  rw [UnpackedFloat.unpackExponent_packComponents,
    UnpackedFloat.unpackMantissa_packComponents]
  exact isNumber

theorem ofNat_ne_allOnes
    {width n : Nat}
    (below : n < (BitVec.allOnes width).toNat) :
    BitVec.ofNat width n ≠ BitVec.allOnes width := by
  intro allOnes
  have least : (BitVec.ofNat width n).toNat ≤ n := by
    rw [BitVec.toNat_ofNat]
    exact Nat.mod_le _ _
  rw [allOnes] at least
  exact Nat.not_lt.mpr least below

/-- What is packed and unpacked again is a number if it was one before. -/
theorem isNaN_unpack_pack
    {format : Format}
    {unpacked : UnpackedFloat}
    (isNumber : unpacked.isNaN = false) :
    (UnpackedFloat.unpack format (UnpackedFloat.pack format unpacked)).isNaN =
      false := by
  cases unpacked with
  | notANumber => cases isNumber
  | infinity sign => exact isNaN_unpack_packComponents (.inr rfl)
  | zero sign => exact isNaN_unpack_packComponents (.inr rfl)
  | finite sign mantissa exponent positive =>
      delta UnpackedFloat.pack
      dsimp only
      split
      case isTrue => exact isNaN_unpack_packComponents (.inr rfl)
      case isFalse notOver =>
          split
          all_goals
            refine isNaN_unpack_packComponents (.inl (ofNat_ne_allOnes ?_))
            rw [BitVec.toNat_allOnes]
            omega

theorem isNaN_roundWithAccuracy
    (format : Format)
    (sign : UnpackedFloat.Sign)
    (mantissa : Nat)
    (exponent : Int)
    (accuracy : UnpackedFloat.Accuracy) :
    (UnpackedFloat.roundWithAccuracy format sign mantissa exponent
      accuracy).isNaN = false := by
  rw [UnpackedFloat.roundWithAccuracy]
  dsimp only
  generalize UnpackedFloat.shiftToTargetExponent format _ _ .exact = rounded
  by_cases isZero : rounded.1.mantissa = 0
  · rw [dif_pos isZero]
    rfl
  · rw [dif_neg isZero]
    rfl

theorem isNaN_ofScientific
    (format : Format)
    (digits : Nat)
    (exponent : Int) :
    (UnpackedFloat.ofScientific format digits exponent).isNaN = false := by
  rw [UnpackedFloat.ofScientific]
  by_cases isZero : digits = 0
  · rw [dif_pos isZero]
    rfl
  rw [dif_neg isZero]
  refine iteInduction (motive := (UnpackedFloat.isNaN · = false)) (fun _ => rfl)
    fun _ => ?_
  refine iteInduction (motive := (UnpackedFloat.isNaN · = false)) (fun _ => rfl)
    fun _ => ?_
  exact iteInduction (motive := (UnpackedFloat.isNaN · = false))
    (fun _ => isNaN_roundWithAccuracy _ _ _ _ _) fun _ =>
      isNaN_roundWithAccuracy _ _ _ _ _

theorem isNaN_neg
    {x : Float}
    (isNumber : x.isNaN = false) :
    (-x).isNaN = false := by
  have isNumber' : x.toModel.unpack.isNaN = false := isNumber
  have opposite : x.toModel.unpack.neg.isNaN = false := by
    cases unpacked : x.toModel.unpack with
    | notANumber =>
        rw [unpacked] at isNumber'
        cases isNumber'
    | _ => rfl
  exact isNaN_unpack_pack opposite

theorem Decimal.isNaN_toFloat
    (decimal : Decimal) :
    decimal.toFloat.isNaN = false := by
  have magnitude :
      (Float.ofModel (.ofScientific decimal.digits decimal.exponent)).isNaN =
        false :=
    isNaN_unpack_pack (isNaN_ofScientific _ _ _)
  rw [toFloat]
  split
  · exact isNaN_neg magnitude
  · exact magnitude

end Formula.Number
