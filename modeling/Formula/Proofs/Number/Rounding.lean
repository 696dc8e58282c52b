import Formula.Proofs.Number.Order

/-!
# Whole numbers as floats

The float next to a whole number is a monotone function of the number: what is
cut off behind the 53 bits of a mantissa is rounded to the nearest one, and two
numbers can only come to the same float or to floats in their own order.  Below
`2 ^ 53` nothing is cut off, and a number shares its float with no other one.
-/

namespace Formula.Number

open Float.Model
open Float.Model.UnpackedFloat (Sign ExtendedMantissa)

/-! ## Cutting off bits -/

/-- A mantissa and its two bits tell what is left of a number without its last
bits, and how the bits that were cut off compare to one half. -/
structure Cut (n bits : Nat) (left : ExtendedMantissa) : Prop where
  mantissa_eq : left.mantissa = n / 2 ^ bits
  roundBit_iff : left.roundBit = true ↔ 2 ^ bits ≤ 2 * (n % 2 ^ bits)
  tie : left.stickyBit = false → n % 2 ^ bits = 0 ∨ 2 * (n % 2 ^ bits) = 2 ^ bits

section

variable {n bits : Nat} {left : ExtendedMantissa}

theorem Cut.none (n : Nat) : Cut n 0 (.ofMantissaAndAccuracy n .exact) where
  mantissa_eq := (Nat.div_one n).symm
  roundBit_iff := by
    rw [Nat.pow_zero, Nat.mod_one]
    exact ⟨nofun, nofun⟩
  tie _ := .inl (Nat.mod_one n)

/-- One more bit is cut off. -/
theorem Cut.shiftRightOne
    (cut : Cut n bits left) :
    Cut n (bits + 1) left.shiftRightOne := by
  have remainder :
      n % 2 ^ (bits + 1) = n % 2 ^ bits + 2 ^ bits * (left.mantissa % 2) := by
    rw [Nat.mod_pow_succ, cut.mantissa_eq]
  have below : n % 2 ^ bits < 2 ^ bits := Nat.mod_lt _ (Nat.two_pow_pos bits)
  have width : 2 ^ (bits + 1) = 2 * 2 ^ bits := Nat.pow_succ'
  have roundBit : left.shiftRightOne.roundBit = (left.mantissa % 2 != 0) := rfl
  have mantissa : left.shiftRightOne.mantissa = n / 2 ^ (bits + 1) := by
    show left.mantissa / 2 = _
    rw [cut.mantissa_eq, Nat.div_div_eq_div_mul, ← Nat.pow_succ]
  have nothing (isExact : left.shiftRightOne.stickyBit = false) :
      n % 2 ^ bits = 0 := by
    rcases Bool.or_eq_false_iff.mp isExact with ⟨noRound, noSticky⟩
    have notHalf : ¬2 ^ bits ≤ 2 * (n % 2 ^ bits) := by
      rw [← cut.roundBit_iff, noRound]
      nofun
    rcases cut.tie noSticky with isZero | isHalf
    · exact isZero
    · omega
  rcases Nat.mod_two_eq_zero_or_one left.mantissa with last | last
  all_goals rw [last] at remainder roundBit
  · rw [Nat.mul_zero, Nat.add_zero] at remainder
    refine ⟨mantissa, ?_, fun isExact => .inl (remainder.trans (nothing isExact))⟩
    rw [roundBit, remainder, width]
    exact ⟨nofun, by omega⟩
  · rw [Nat.mul_one] at remainder
    refine ⟨mantissa, ?_, fun isExact => .inr ?_⟩
    · rw [roundBit, remainder, width]
      exact ⟨fun _ => by omega, fun _ => rfl⟩
    · rw [remainder, width, nothing isExact, Nat.zero_add]

theorem Cut.shiftRight (n bits : Nat) :
    Cut n bits (ExtendedMantissa.ofMantissaAndAccuracy n .exact >>> bits) := by
  show Cut n bits (bits.repeat ExtendedMantissa.shiftRightOne _)
  induction bits with
  | zero => exact .none n
  | succ bits ih => exact ih.shiftRightOne

/-- Less than one half is rounded down, and more than one half is rounded up. -/
theorem Cut.rounded_cases (cut : Cut n bits left) :
    left.roundedMantissa = n / 2 ^ bits ∧ 2 * (n % 2 ^ bits) ≤ 2 ^ bits ∨
      left.roundedMantissa = n / 2 ^ bits + 1 ∧ 2 ^ bits ≤ 2 * (n % 2 ^ bits) := by
  have half := cut.roundBit_iff
  have tie := cut.tie
  have mantissa_eq := cut.mantissa_eq
  rcases left with ⟨mantissa, _ | _, _ | _⟩
  case false.false | false.true =>
    have less := Nat.lt_of_not_le fun more => nomatch half.mpr more
    exact .inl ⟨mantissa_eq, less.le⟩
  case true.true => exact .inr ⟨congrArg (· + 1) mantissa_eq, half.mp rfl⟩
  case true.false =>
    have more := half.mp rfl
    have isHalf : 2 * (n % 2 ^ bits) = 2 ^ bits := by
      have positive := Nat.two_pow_pos bits
      rcases tie rfl with isZero | isHalf
      · omega
      · exact isHalf
    have isRounded : ExtendedMantissa.roundedMantissa ⟨mantissa, true, false⟩ =
        mantissa + mantissa % 2 := rfl
    have mantissa_eq' : mantissa = n / 2 ^ bits := mantissa_eq
    rw [isRounded, mantissa_eq']
    rcases Nat.mod_two_eq_zero_or_one (n / 2 ^ bits) with even | odd
    · exact .inl ⟨by rw [even, Nat.add_zero], isHalf.le⟩
    · exact .inr ⟨by rw [odd], more⟩

/-- Rounding moves a number by half a unit at most. -/
theorem Cut.rounded_bounds (cut : Cut n bits left) :
    2 * n ≤ 2 * (2 ^ bits * left.roundedMantissa) + 2 ^ bits ∧
      2 * (2 ^ bits * left.roundedMantissa) ≤ 2 * n + 2 ^ bits := by
  have parts : 2 ^ bits * (n / 2 ^ bits) + n % 2 ^ bits = n := Nat.div_add_mod _ _
  have below : n % 2 ^ bits < 2 ^ bits := Nat.mod_lt _ (Nat.two_pow_pos bits)
  rcases cut.rounded_cases with ⟨isRounded, bound⟩ | ⟨isRounded, bound⟩
  all_goals rw [isRounded]
  · omega
  · rw [Nat.mul_add, Nat.mul_one]
    omega

end

/-- A number without its last bits, rounded to the nearest mantissa and to an even
one in the middle. -/
def roundedAt (n bits : Nat) : Nat :=
  (ExtendedMantissa.ofMantissaAndAccuracy n .exact >>> bits).roundedMantissa

theorem roundedAt_zero (n : Nat) : roundedAt n 0 = n :=
  rfl

theorem roundedAt_bounds (n bits : Nat) :
    n / 2 ^ bits ≤ roundedAt n bits ∧ roundedAt n bits ≤ n / 2 ^ bits + 1 := by
  rcases (Cut.shiftRight n bits).rounded_cases with ⟨isRounded, -⟩ | ⟨isRounded, -⟩
  all_goals
    rw [roundedAt, isRounded]
    omega

/-- Numbers are rounded in their order. -/
theorem roundedAt_mono
    {m n : Nat}
    (bits : Nat)
    (le : m ≤ n) :
    roundedAt m bits ≤ roundedAt n bits := by
  by_contra greater
  have apart : roundedAt n bits + 1 ≤ roundedAt m bits := Nat.lt_of_not_le greater
  have upper := (Cut.shiftRight m bits).rounded_bounds.2
  have lower := (Cut.shiftRight n bits).rounded_bounds.1
  have unit :
      2 ^ bits * roundedAt n bits + 2 ^ bits ≤ 2 ^ bits * roundedAt m bits :=
    Nat.mul_le_mul_left _ apart
  have same : m = n := by
    rw [← roundedAt] at upper lower
    omega
  exact greater (same ▸ Nat.le_refl _)

/-! ## The nearest mantissa -/

/-- The mantissa of 53 bits that is nearest to a whole number, or the least of 54
bits. -/
def nearestMantissa (n : Nat) : Nat :=
  roundedAt (n <<< (52 - n.log2)) (n.log2 - 52)

/-- The rank of the float that is nearest to a positive whole number.  A mantissa
of 54 bits counts the same as the exponent after it. -/
def naturalRank (n : Nat) : Int :=
  magnitudeRank (nearestMantissa n) (n.log2 - 52)

theorem log2_shiftLeft
    {n : Nat}
    (positive : 0 < n)
    (bits : Nat) :
    (n <<< bits).log2 = n.log2 + bits := by
  induction bits with
  | zero => rfl
  | succ bits ih =>
      have notZero : n <<< bits ≠ 0 := by
        rw [Nat.shiftLeft_eq]
        exact (Nat.mul_pos positive (Nat.two_pow_pos bits)).ne'
      rw [Nat.shiftLeft_succ, Nat.log2_two_mul notZero, ih, Nat.add_assoc]

section

variable {m n : Nat}

/-- The number with as many bits as a mantissa has, or more. -/
theorem widened_bounds (positive : 0 < n) :
    2 ^ (52 + (n.log2 - 52)) ≤ n <<< (52 - n.log2) ∧
      n <<< (52 - n.log2) < 2 ^ (53 + (n.log2 - 52)) := by
  have notZero : n <<< (52 - n.log2) ≠ 0 := by
    rw [Nat.shiftLeft_eq]
    exact (Nat.mul_pos positive (Nat.two_pow_pos _)).ne'
  have length := log2_shiftLeft positive (52 - n.log2)
  rw [← Nat.le_log2 notZero, ← Nat.log2_lt notZero, length]
  omega

theorem nearestMantissa_bounds (positive : 0 < n) :
    2 ^ 52 ≤ nearestMantissa n ∧ nearestMantissa n ≤ 2 ^ 53 := by
  rcases widened_bounds positive with ⟨lower, upper⟩
  rw [Nat.pow_add] at lower upper
  have atLeast := (Nat.le_div_iff_mul_le (Nat.two_pow_pos (n.log2 - 52))).mpr lower
  have below := (Nat.div_lt_iff_lt_mul (Nat.two_pow_pos (n.log2 - 52))).mpr upper
  have rounded := roundedAt_bounds (n <<< (52 - n.log2)) (n.log2 - 52)
  rw [← nearestMantissa] at rounded
  omega

/-- Nothing is cut off a number of no more than 53 bits. -/
theorem nearestMantissa_of_lt
    (positive : 0 < n)
    (short : n < 2 ^ 53) :
    nearestMantissa n = n <<< (52 - n.log2) ∧ nearestMantissa n < 2 ^ 53 := by
  have length : n.log2 - 52 = 0 := by
    have := (Nat.log2_lt positive.ne').mpr short
    omega
  have upper := (widened_bounds positive).2
  rw [nearestMantissa, length, roundedAt_zero]
  rw [length] at upper
  exact ⟨rfl, upper⟩

theorem log2_mono
    (positive : 0 < m)
    (le : m ≤ n) :
    m.log2 ≤ n.log2 :=
  (Nat.le_log2 (positive.trans_le le).ne').mpr
    ((Nat.log2_self_le positive.ne').trans le)

/-- Numbers are in the order of the floats that are nearest to them. -/
theorem naturalRank_mono
    (positive : 0 < m)
    (le : m ≤ n) :
    naturalRank m ≤ naturalRank n := by
  have boundsM := nearestMantissa_bounds positive
  have boundsN := nearestMantissa_bounds (positive.trans_le le)
  rw [naturalRank, naturalRank, magnitudeRank, magnitudeRank]
  rcases (log2_mono positive le).eq_or_lt with same | less
  · have ordered : nearestMantissa m ≤ nearestMantissa n := by
      rw [nearestMantissa, nearestMantissa, same]
      apply roundedAt_mono
      rw [Nat.shiftLeft_eq, Nat.shiftLeft_eq]
      exact Nat.mul_le_mul_right _ le
    omega
  · omega

theorem naturalRank_pos (positive : 0 < n) : 0 < naturalRank n := by
  have bounds := nearestMantissa_bounds positive
  rw [naturalRank, magnitudeRank]
  omega

/-- A number of no more than 53 bits has a float of its own. -/
theorem naturalRank_lt
    (positive : 0 < m)
    (less : m < n)
    (short : m < 2 ^ 53) :
    naturalRank m < naturalRank n := by
  rcases nearestMantissa_of_lt positive short with ⟨isExact, isShort⟩
  have boundsN := nearestMantissa_bounds (positive.trans less)
  rw [naturalRank, naturalRank, magnitudeRank, magnitudeRank]
  rcases (log2_mono positive less.le).eq_or_lt with same | lessBits
  · have shortN : n < 2 ^ 53 := by
      have lengthM := (Nat.log2_lt positive.ne').mpr short
      exact (Nat.log2_lt (positive.trans less).ne').mp (same ▸ lengthM)
    have ordered : nearestMantissa m < nearestMantissa n := by
      rw [isExact, (nearestMantissa_of_lt (positive.trans less) shortN).1, same,
        Nat.shiftLeft_eq, Nat.shiftLeft_eq]
      exact Nat.mul_lt_mul_of_pos_right less (Nat.two_pow_pos _)
    omega
  · omega

end

/-! ## Rounding of a natural number -/

/-- A mantissa of more than 53 bits loses the others, if the exponent is not too
small. -/
theorem shiftToTargetExponent_eq
    (mantissa : Nat)
    {exponent : Int}
    (least : -1074 ≤ exponent) :
    UnpackedFloat.shiftToTargetExponent .binary64 mantissa exponent .exact =
      (ExtendedMantissa.ofMantissaAndAccuracy mantissa .exact >>>
        (mantissa.log2 - 52), exponent + (mantissa.log2 - 52 : Nat)) := by
  have amount : (Format.binary64.targetExponent (totalExponent mantissa exponent) -
      exponent).toNat = mantissa.log2 - 52 := by
    show (max (((mantissa.log2 : Int) + 1 + exponent) - 53) (-1074) -
      exponent).toNat = _
    omega
  rw [UnpackedFloat.shiftToTargetExponent, UnpackedFloat.shiftToExponent,
    amount]

/-- A mantissa that was rounded up to 54 bits is halved, and keeps its rank. -/
theorem shiftToTargetExponent_rounded
    {mantissa : Nat}
    (exponent : Int)
    (least : -1074 ≤ exponent)
    (bounds : 2 ^ 52 ≤ mantissa ∧ mantissa ≤ 2 ^ 53) :
    let final :=
      UnpackedFloat.shiftToTargetExponent .binary64 mantissa exponent .exact
    2 ^ 52 ≤ final.1.mantissa ∧ final.1.mantissa < 2 ^ 53 ∧ exponent ≤ final.2 ∧
      final.2 ≤ exponent + 1 ∧
        magnitudeRank final.1.mantissa final.2 =
          magnitudeRank mantissa exponent := by
  rw [shiftToTargetExponent_eq mantissa least]
  rcases bounds.2.lt_or_eq with short | overflow
  · have length : mantissa.log2 - 52 = 0 := by
      have := (Nat.log2_lt (by omega : mantissa ≠ 0)).mpr short
      omega
    rw [length]
    rw [Nat.cast_zero, Int.add_zero]
    exact ⟨bounds.1, short, Int.le_refl _, by omega, rfl⟩
  · rw [overflow, Nat.log2_two_pow]
    have halved : (ExtendedMantissa.ofMantissaAndAccuracy (2 ^ 53) .exact >>>
        (53 - 52)).mantissa = 2 ^ 52 := by
      decide
    dsimp only
    rw [halved, magnitudeRank, magnitudeRank]
    omega

/-- A positive whole number is rounded to the float of its rank. -/
theorem round_natural
    (sign : Sign)
    {n : Nat}
    (positive : 0 < n)
    (inRange : n < 2 ^ 64) :
    ∃ mantissa exponent, ∃ notZero : 0 < mantissa,
      UnpackedFloat.round .binary64 sign n 0 =
          .finite sign mantissa exponent notZero ∧
        Canonical (.finite sign mantissa exponent notZero) ∧ 2 ^ 52 ≤ mantissa ∧
          magnitudeRank mantissa exponent = naturalRank n := by
  have length : n.log2 < 64 := (Nat.log2_lt positive.ne').mpr inRange
  have widened : UnpackedFloat.decreaseExponent n 0
      (Format.binary64.targetExponent (totalExponent n 0)) =
        (n <<< (52 - n.log2), -((52 - n.log2 : Nat) : Int)) := by
    have amount : (0 - Format.binary64.targetExponent (totalExponent n 0)).toNat =
        52 - n.log2 := by
      show (0 - max (((n.log2 : Int) + 1 + 0) - 53) (-1074)).toNat = _
      omega
    rw [UnpackedFloat.decreaseExponent, amount, Int.zero_sub]
  have shortened :
      UnpackedFloat.shiftToTargetExponent .binary64 (n <<< (52 - n.log2))
        (-((52 - n.log2 : Nat) : Int)) .exact =
          (ExtendedMantissa.ofMantissaAndAccuracy (n <<< (52 - n.log2)) .exact >>>
            (n.log2 - 52), (n.log2 : Int) - 52) := by
      have amount : n.log2 + (52 - n.log2) - 52 = n.log2 - 52 := by omega
      have exponent : -((52 - n.log2 : Nat) : Int) + (n.log2 - 52 : Nat) =
          (n.log2 : Int) - 52 := by
        omega
      rw [shiftToTargetExponent_eq _ (by omega), log2_shiftLeft positive, amount,
        exponent]
  have normalized := shiftToTargetExponent_rounded ((n.log2 : Int) - 52) (by omega)
    (nearestMantissa_bounds positive)
  rw [UnpackedFloat.round, widened]
  dsimp only
  rw [UnpackedFloat.roundWithAccuracy, shortened]
  dsimp only
  rw [← roundedAt, ← nearestMantissa]
  generalize UnpackedFloat.shiftToTargetExponent .binary64 (nearestMantissa n) _
    .exact = final at normalized ⊢
  rcases normalized with ⟨lower, upper, exponentLower, exponentUpper, sameRank⟩
  have notZero : 0 < final.1.mantissa := by omega
  rw [dif_neg notZero.ne']
  exact ⟨_, _, notZero, rfl, ⟨upper, by omega, by omega, .inl lower⟩, lower,
    sameRank⟩

/-! ## The float of an integer -/

theorem unpackSign_packComponents
    {format : Format}
    (sign : Sign)
    (exponent : BitVec format.exponentBits)
    (mantissa : BitVec format.mantissaBitsWithoutImplicit) :
    UnpackedFloat.unpackSign
      (UnpackedFloat.packComponents format sign exponent mantissa) =
        sign.toBitVec := by
  delta UnpackedFloat.unpackSign
  ext i isBit
  obtain rfl : i = 0 := by omega
  simp [UnpackedFloat.packComponents, BitVec.getLsbD_append, BitVec.getElem_append]

theorem finite_eq
    {sign sign' : Sign}
    {mantissa mantissa' : Nat}
    {exponent exponent' : Int}
    {positive : 0 < mantissa}
    {positive' : 0 < mantissa'}
    (sameSign : sign = sign')
    (sameMantissa : mantissa = mantissa')
    (sameExponent : exponent = exponent') :
    UnpackedFloat.finite sign mantissa exponent positive =
      .finite sign' mantissa' exponent' positive' := by
  subst sameSign sameMantissa sameExponent
  rfl

/-- An exponent that is neither the least nor the greatest goes with a bit in
front of the mantissa. -/
theorem unpack_packComponents
    {format : Format}
    (sign : Sign)
    {exponent : BitVec format.exponentBits}
    (mantissa : BitVec format.mantissaBitsWithoutImplicit)
    (notOnes : exponent ≠ -1#_)
    (notZero : exponent ≠ 0#_) :
    UnpackedFloat.unpack format
        (UnpackedFloat.packComponents format sign exponent mantissa) =
      .finite sign (1#1 ++ mantissa).toNat
        (exponent.toNat -
          (format.exponentBias + format.mantissaBitsWithoutImplicit))
        (toNat_implicit_append mantissa ▸
          Nat.add_pos_left (Nat.two_pow_pos _) _) := by
  have sameSign : Sign.ofBitVec sign.toBitVec = sign := by
    cases sign <;> rfl
  have sameExponent : UnpackedFloat.unpackExponent
      (UnpackedFloat.packComponents format sign exponent mantissa) = exponent :=
    UnpackedFloat.unpackExponent_packComponents
  have sameMantissa : UnpackedFloat.unpackMantissa
      (UnpackedFloat.packComponents format sign exponent mantissa) = mantissa :=
    UnpackedFloat.unpackMantissa_packComponents
  delta UnpackedFloat.unpack
  dsimp only
  rw [if_neg (sameExponent.trans_ne notOnes),
    if_neg (sameExponent.trans_ne notZero)]
  apply finite_eq
  · rw [unpackSign_packComponents, sameSign]
  · rw [sameMantissa]
  · rw [sameExponent]

/-- The bits of a float with a full mantissa spell its parts. -/
theorem unpack_pack_of_full
    {sign : Sign}
    {mantissa : Nat}
    {exponent : Int}
    {positive : 0 < mantissa}
    (canonical : Canonical (.finite sign mantissa exponent positive))
    (isFull : 2 ^ 52 ≤ mantissa) :
    UnpackedFloat.unpack .binary64
        (UnpackedFloat.pack .binary64 (.finite sign mantissa exponent positive)) =
      .finite sign mantissa exponent positive := by
  rcases canonical with ⟨below, least, greatest, -⟩
  have length : mantissa.log2 + 1 = 53 := by
    rw [(Nat.log2_eq_iff positive.ne').mpr ⟨isFull, below⟩]
  obtain ⟨biased, rfl⟩ : ∃ biased : Nat, exponent = (biased : Int) - 1075 :=
    ⟨(exponent + 1075).toNat, by omega⟩
  have packed : UnpackedFloat.pack .binary64
      (.finite sign mantissa (biased - 1075) positive) =
        UnpackedFloat.packComponents .binary64 sign (BitVec.ofNat 11 biased)
          (BitVec.ofNat 52 mantissa) := by
    have amount : ((biased : Int) - 1075 + (1023 : Nat) + (52 : Nat)).toNat =
        biased := by omega
    show
      (if 2 ^ 11 ≤ ((biased : Int) - 1075 + (1023 : Nat) + (52 : Nat)).toNat + 1
      then _
      else if mantissa.log2 + 1 = 53 then
        UnpackedFloat.packComponents .binary64 sign
          (BitVec.ofNat 11
            ((biased : Int) - 1075 + (1023 : Nat) + (52 : Nat)).toNat) _
      else _) = _
    rw [amount, if_neg (by omega), if_pos length]
  have bits : (BitVec.ofNat 11 biased).toNat = biased := by
    rw [BitVec.toNat_ofNat, Nat.mod_eq_of_lt (by omega)]
  have notOnes : BitVec.ofNat 11 biased ≠ -1#11 := by
    intro same
    rw [same] at bits
    have : (-1#11).toNat = 2047 := rfl
    omega
  have notZero : BitVec.ofNat 11 biased ≠ 0#11 := by
    intro same
    rw [same] at bits
    have : (0#11).toNat = 0 := rfl
    omega
  have whole : (1#1 ++ BitVec.ofNat 52 mantissa).toNat = mantissa := by
    rw [toNat_implicit_append, BitVec.toNat_ofNat]
    omega
  have bias : (Format.binary64.exponentBias : Int) = 1023 := rfl
  rw [packed, unpack_packComponents _ _ notOnes notZero]
  refine finite_eq rfl whole ?_
  rw [bits, bias]
  rfl

/-- The sign of an integer is that of its float, and the rest of it is rounded. -/
theorem unpackedOfInt_apply
    (sign : Sign)
    {n : Nat}
    (positive : 0 < n) :
    UnpackedFloat.ofInt .binary64 (sign.apply n) =
      UnpackedFloat.round .binary64 sign n 0 := by
  rw [UnpackedFloat.ofInt, UnpackedFloat.normalize]
  cases sign with
  | negative =>
      have less : Sign.apply .negative n < 0 := by
        simp only [Sign.apply]
        omega
      rw [compare_lt_iff_lt.mpr less]
      simp only [Sign.apply, Int.neg_neg, Int.toNat_natCast]
  | positive =>
      have greater : 0 < Sign.apply .positive n := Int.natCast_pos.mpr positive
      rw [compare_gt_iff_gt.mpr greater]
      simp only [Sign.apply, Int.toNat_natCast]

/-- A positive whole number, with a sign, comes to a float with a full mantissa. -/
theorem unpack_ofInt_apply
    (sign : Sign)
    {n : Nat}
    (positive : 0 < n)
    (inRange : n < 2 ^ 64) :
    ∃ mantissa exponent, ∃ notZero : 0 < mantissa,
      (ofInt (sign.apply n)).toModel.unpack =
          .finite sign mantissa exponent notZero ∧
        Canonical (.finite sign mantissa exponent notZero) ∧ 2 ^ 52 ≤ mantissa ∧
          magnitudeRank mantissa exponent = naturalRank n ∧
            ofInt (sign.apply n) =
              .ofModel (.pack (.finite sign mantissa exponent notZero)) := by
  rcases round_natural sign positive inRange with
    ⟨mantissa, exponent, notZero, isRound, canonical, isFull, sameRank⟩
  have parts : UnpackedFloat.ofInt .binary64 (sign.apply n) =
      .finite sign mantissa exponent notZero :=
    (unpackedOfInt_apply sign positive).trans isRound
  refine ⟨mantissa, exponent, notZero, ?_, canonical, isFull, sameRank, ?_⟩
  · show UnpackedFloat.unpack .binary64
      (UnpackedFloat.pack .binary64
        (UnpackedFloat.ofInt .binary64 (sign.apply n))) = _
    rw [parts, unpack_pack_of_full canonical isFull]
  · rw [ofInt, Float.Model.ofInt, parts]

theorem rank_ofInt_apply
    (sign : Sign)
    {n : Nat}
    (positive : 0 < n)
    (inRange : n < 2 ^ 64) :
    rank (ofInt (sign.apply n)) = sign.apply (naturalRank n) := by
  rcases unpack_ofInt_apply sign positive inRange with
    ⟨mantissa, exponent, notZero, parts, -, -, sameRank, -⟩
  rw [rank, parts]
  exact congrArg sign.apply sameRank

theorem rank_ofInt_zero : rank (ofInt 0) = 0 := by
  decide +kernel

/-- Opposite numbers have opposite ranks. -/
theorem rank_ofInt_neg
    {n : Int}
    (inRange : n.natAbs < 2 ^ 64) :
    rank (ofInt (-n)) = -rank (ofInt n) := by
  have ranks (k : Nat) (positive : 0 < k) (below : k < 2 ^ 64) :
      rank (ofInt k) = naturalRank k ∧ rank (ofInt (-k)) = -naturalRank k :=
    ⟨rank_ofInt_apply .positive positive below,
      rank_ofInt_apply .negative positive below⟩
  rcases lt_trichotomy n 0 with less | rfl | greater
  · obtain ⟨k, rfl⟩ := Int.exists_eq_neg_ofNat less.le
    have sameRank := ranks k (by omega) (by omega)
    rw [Int.neg_neg, sameRank.1, sameRank.2, Int.neg_neg]
  · rw [Int.neg_zero, rank_ofInt_zero, Int.neg_zero]
  · obtain ⟨k, rfl⟩ := Int.eq_ofNat_of_zero_le greater.le
    have sameRank := ranks k (by omega) (by omega)
    rw [sameRank.1, sameRank.2]

/-- From zero on, integers are in the order of their floats. -/
theorem rank_ofInt_mono_of_nonneg
    {m n : Int}
    (inRange : n.natAbs < 2 ^ 64)
    (nonneg : 0 ≤ m)
    (le : m ≤ n) :
    rank (ofInt m) ≤ rank (ofInt n) := by
  obtain ⟨a, rfl⟩ := Int.eq_ofNat_of_zero_le nonneg
  obtain ⟨b, rfl⟩ := Int.eq_ofNat_of_zero_le (nonneg.trans le)
  rcases Nat.eq_zero_or_pos b with rfl | positiveB
  · obtain rfl : a = 0 := by omega
    exact Int.le_refl _
  have rankB : rank (ofInt b) = naturalRank b :=
    rank_ofInt_apply .positive positiveB inRange
  rcases Nat.eq_zero_or_pos a with rfl | positiveA
  · rw [rankB]
    exact (naturalRank_pos positiveB).le
  · have rankA : rank (ofInt a) = naturalRank a :=
      rank_ofInt_apply .positive positiveA (by omega)
    rw [rankA, rankB]
    exact naturalRank_mono positiveA (Int.ofNat_le.mp le)

/-- Integers are in the order of their floats. -/
theorem rank_ofInt_mono
    {m n : Int}
    (inRange : m.natAbs < 2 ^ 64)
    (inRange' : n.natAbs < 2 ^ 64)
    (le : m ≤ n) :
    rank (ofInt m) ≤ rank (ofInt n) := by
  rcases Int.le_total 0 m with nonneg | nonpos
  · exact rank_ofInt_mono_of_nonneg inRange' nonneg le
  have opposite := rank_ofInt_neg inRange
  rcases Int.le_total 0 n with nonneg' | nonpos'
  · have negative :=
      rank_ofInt_mono_of_nonneg (n := -m) (by omega) (Int.le_refl 0) (by omega)
    have positive := rank_ofInt_mono_of_nonneg inRange' (Int.le_refl 0) nonneg'
    rw [rank_ofInt_zero] at negative positive
    omega
  · have opposite' := rank_ofInt_neg inRange'
    have reversed := rank_ofInt_mono_of_nonneg (m := -n) (n := -m) (by omega)
      (by omega) (by omega)
    omega

theorem exists_sign_apply
    {n : Int}
    (notZero : n ≠ 0) :
    ∃ sign, ∃ k : Nat, 0 < k ∧ n = Sign.apply sign k := by
  rcases Int.lt_or_gt_of_ne notZero with less | greater
  · obtain ⟨k, rfl⟩ := Int.exists_eq_neg_ofNat less.le
    exact ⟨.negative, k, by omega, rfl⟩
  · obtain ⟨k, rfl⟩ := Int.eq_ofNat_of_zero_le greater.le
    exact ⟨.positive, k, by omega, rfl⟩

theorem natAbs_apply
    (sign : Sign)
    (k : Nat) :
    (sign.apply k).natAbs = k := by
  cases sign with
  | negative => exact Int.natAbs_neg _
  | positive => rfl

theorem rank_ofInt_ne_zero
    {n : Int}
    (notZero : n ≠ 0)
    (inRange : n.natAbs < 2 ^ 64) :
    rank (ofInt n) ≠ 0 := by
  obtain ⟨sign, k, positive, rfl⟩ := exists_sign_apply notZero
  rw [natAbs_apply] at inRange
  have rankPositive := naturalRank_pos positive
  rw [rank_ofInt_apply sign positive inRange]
  cases sign with
  | negative => exact Int.neg_ne_zero.mpr rankPositive.ne'
  | positive => exact rankPositive.ne'

section

variable {m n : Int} (sameRank : rank (ofInt m) = rank (ofInt n))
include sameRank

/-- The sign of an integer can be seen from the rank of its float. -/
theorem same_sign_of_rank_eq
    (inRange : m.natAbs < 2 ^ 64)
    (inRange' : n.natAbs < 2 ^ 64) :
    m = n ∨ ∃ sign, ∃ a b : Nat, 0 < a ∧ 0 < b ∧ m = Sign.apply sign a ∧
      n = Sign.apply sign b ∧ naturalRank a = naturalRank b := by
  rcases eq_or_ne m 0 with rfl | notZero
  · by_contra different
    exact rank_ofInt_ne_zero (fun isZero => different (.inl isZero.symm))
      inRange' sameRank.symm
  rcases eq_or_ne n 0 with rfl | notZero'
  · exact absurd sameRank (rank_ofInt_ne_zero notZero inRange)
  obtain ⟨sign, a, positive, rfl⟩ := exists_sign_apply notZero
  obtain ⟨sign', b, positive', rfl⟩ := exists_sign_apply notZero'
  rw [natAbs_apply] at inRange inRange'
  rw [rank_ofInt_apply sign positive inRange,
    rank_ofInt_apply sign' positive' inRange']
    at sameRank
  have rankPositive := naturalRank_pos positive
  have rankPositive' := naturalRank_pos positive'
  have same : sign = sign' ∧ naturalRank a = naturalRank b := by
    cases sign <;> cases sign'
    all_goals
      simp only [Sign.apply] at sameRank
      first | exact ⟨rfl, by omega⟩ | omega
  exact .inr ⟨sign, a, b, positive, positive', rfl,
    congrArg (Sign.apply · b) same.1.symm, same.2⟩

/-- Integers that come to floats of the same rank come to the same float. -/
theorem ofInt_eq_of_rank_eq
    (inRange : m.natAbs < 2 ^ 64)
    (inRange' : n.natAbs < 2 ^ 64) :
    ofInt m = ofInt n := by
  rcases same_sign_of_rank_eq sameRank inRange inRange' with
    rfl | ⟨sign, a, b, positive, positive', rfl, rfl, sameNatural⟩
  · rfl
  rw [natAbs_apply] at inRange inRange'
  rcases unpack_ofInt_apply sign positive inRange with
    ⟨mantissa, exponent, notZero, -, canonical, -, isRank, isFloat⟩
  rcases unpack_ofInt_apply sign positive' inRange' with
    ⟨mantissa', exponent', notZero', -, canonical', -, isRank', isFloat'⟩
  have sameMagnitude := isRank.trans (sameNatural.trans isRank'.symm)
  obtain ⟨rfl, rfl⟩ := eq_of_magnitudeRank_eq canonical canonical' sameMagnitude
  exact isFloat.trans isFloat'.symm

/-- Only integers from `2 ^ 53` on share their floats with others. -/
theorem large_of_rank_eq
    (inRange : m.natAbs < 2 ^ 64)
    (inRange' : n.natAbs < 2 ^ 64)
    (different : m ≠ n) :
    2 ^ 53 ≤ m.natAbs ∧ 2 ^ 53 ≤ n.natAbs := by
  rcases same_sign_of_rank_eq sameRank inRange inRange' with
    same | ⟨sign, a, b, positive, positive', rfl, rfl, sameNatural⟩
  · exact absurd same different
  rw [natAbs_apply, natAbs_apply]
  by_contra short
  rcases lt_trichotomy a b with less | rfl | greater
  · exact (naturalRank_lt positive less (by omega)).ne sameNatural
  · exact different rfl
  · exact (naturalRank_lt positive' greater (by omega)).ne' sameNatural

end

theorem isNaN_ofInt
    {n : Int}
    (inRange : n.natAbs < 2 ^ 64) :
    (ofInt n).isNaN = false := by
  show (ofInt n).toModel.unpack.isNaN = false
  rcases eq_or_ne n 0 with rfl | notZero
  · rfl
  obtain ⟨sign, k, positive, rfl⟩ := exists_sign_apply notZero
  rw [natAbs_apply] at inRange
  rcases unpack_ofInt_apply sign positive inRange with ⟨_, _, _, parts, -⟩
  rw [parts]
  rfl

theorem natAbs_toInt_lt (n : Int64) : n.toInt.natAbs < 2 ^ 64 := by
  have := n.toInt_lt
  have := n.le_toInt
  omega

end Formula.Number
