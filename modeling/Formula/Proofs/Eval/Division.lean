import Formula.Proofs.Eval.IntegerOperands
import Mathlib.Data.Int.ModEq

/-!
# Division of integers

Quotients truncate toward zero and remainders have the sign of the dividend.
There is one quotient that is no word, that of the least word by minus one; it
wraps around, and dividend, divisor, quotient and remainder still fit together
modulo `2 ^ 64`.  A divisor of zero is an error, but only if nothing else decides
first: an empty operand, or one that is no integer.
-/

namespace Formula

/-! ## Words -/

/-- A quotient and a remainder belong to a dividend and a divisor. -/
structure IsDivision (m n quotient remainder : Int64) : Prop where
  truncates : quotient.toInt = (m.toInt.tdiv n.toInt).bmod (2 ^ 64)
  restores : quotient.toInt * n.toInt + remainder.toInt ≡ m.toInt [ZMOD 2 ^ 64]
  smaller : |remainder.toInt| < |n.toInt|
  signed : remainder = 0 ∨ remainder.toInt.sign = m.toInt.sign

/-- Words are divided like numbers, and the quotient wraps around. -/
theorem isDivision_div_mod
    (m : Int64)
    {n : Int64}
    (nonzero : n ≠ 0) :
    IsDivision m n (m / n) (m % n) where
  truncates := Int64.toInt_div m n
  restores := by
    have wraps : (m / n).toInt ≡ m.toInt.tdiv n.toInt [ZMOD 2 ^ 64] := by
      rw [Int64.toInt_div]
      exact Int.bmod_emod
    calc (m / n).toInt * n.toInt + (m % n).toInt
      _ ≡ m.toInt.tdiv n.toInt * n.toInt + m.toInt.tmod n.toInt [ZMOD 2 ^ 64] := by
        rw [Int64.toInt_mod]
        exact (wraps.mul_right _).add_right _
      _ = m.toInt := Int.tdiv_mul_add_tmod _ _
  smaller := by
    have positive : 0 < n.toInt.natAbs :=
      Int.natAbs_pos.mpr fun isZero => nonzero (Int64.toInt_inj.mp isZero)
    rw [Int64.toInt_mod, Int.abs_eq_natAbs, Int.abs_eq_natAbs, Int.natAbs_tmod]
    exact_mod_cast Nat.mod_lt _ positive
  signed := by
    -- Both cases are needed: a divisor that divides leaves
    -- nothing, which has no sign.
    have sign := Int.sign_tmod m.toInt n.toInt
    rw [← Int64.toInt_mod] at sign
    split at sign
    · exact .inl (Int64.toInt_inj.mp (Int.sign_eq_zero_iff_zero.mp sign))
    · exact .inr sign

/-! ## Values -/

namespace Eval

open Value

/-- What two operands lead to as a quotient and as a remainder. -/
structure DivisionLaw
    (left right : Value)
    (quotient remainder : Except Error Value) : Prop where
  absent (isAbsent : left = .absent ∨ right = .absent) :
    quotient = .ok .absent ∧ remainder = .ok .absent
  null (notAbsent : left ≠ .absent) (notAbsent' : right ≠ .absent)
      (isNull : left = .null ∨ right = .null) :
    quotient = .ok .null ∧ remainder = .ok .null
  leftError {e : Error} (present : left.isEmpty = false)
      (present' : right.isEmpty = false)
      (fails : left.fetchInt = .error e) :
    quotient = .error e ∧ remainder = .error e ∧ e ≠ .divisionByZero
  rightError {m : Int64} {e : Error} (present' : right.isEmpty = false)
      (isInt : left.fetchInt = .ok m) (fails : right.fetchInt = .error e) :
    quotient = .error e ∧ remainder = .error e ∧ e ≠ .divisionByZero
  zeroDivisor {m n : Int64} (isInt : left.fetchInt = .ok m)
      (isInt' : right.fetchInt = .ok n) :
    (quotient = .error .divisionByZero ↔ n = 0) ∧
      (remainder = .error .divisionByZero ↔ n = 0)
  division {m n : Int64} (isInt : left.fetchInt = .ok m)
      (isInt' : right.fetchInt = .ok n)
      (nonzero : n ≠ 0) :
    ∃ q r, quotient = .ok (.int q) ∧ remainder = .ok (.int r) ∧ IsDivision m n q r

variable {left right : Value}

/-- A conversion does not fail because of a division. -/
theorem ne_divisionByZero_of_fetchInt
    {value : Value}
    {e : Error}
    (fails : value.fetchInt = .error e) :
    e ≠ .divisionByZero := by
  rintro rfl
  rcases wantsInt_of_fetchInt fails with ⟨_, isConversion⟩
  cases isConversion

section

variable {m n : Int64} (isInt : left.fetchInt = .ok m)
  (isInt' : right.fetchInt = .ok n)
include isInt isInt'

theorem onInts_of_ints (compute : Int64 → Int64 → Except Error Int64) :
    onInts compute left right = .int <$> compute m n := by
  rw [onInts_of_present (isEmpty_of_fetchInt isInt) (isEmpty_of_fetchInt isInt'),
    isInt, isInt']
  rfl

/-- The quotient of two integers. -/
theorem binary_intDiv_of_ints :
    binary .intDiv left right =
      if n = 0 then .error .divisionByZero else .ok (.int (m / n)) := by
  rw [binary, onInts_of_ints isInt isInt']
  show int <$>
    (if n = 0 then .error .divisionByZero else .ok (m / n) : Except Error _) = _
  split <;> rfl

/-- The remainder of two integers. -/
theorem binary_intMod_of_ints :
    binary .intMod left right =
      if n = 0 then .error .divisionByZero else .ok (.int (m % n)) := by
  rw [binary, onInts_of_ints isInt isInt']
  show int <$>
    (if n = 0 then .error .divisionByZero else .ok (m % n) : Except Error _) = _
  split <;> rfl

end

/-- Quotient and remainder obey the division law, whatever the operands are. -/
theorem divisionLaw_binary (left right : Value) :
    DivisionLaw left right (binary .intDiv left right)
      (binary .intMod left right) where
  absent isAbsent :=
    have decides := emptyOperand_of_absent isAbsent
    ⟨onInts_of_emptyOperand decides _, onInts_of_emptyOperand decides _⟩
  null notAbsent notAbsent' isNull :=
    have decides := emptyOperand_of_null notAbsent notAbsent' isNull
    ⟨onInts_of_emptyOperand decides _, onInts_of_emptyOperand decides _⟩
  leftError present present' fails :=
    ⟨binary_of_left_error present present' rfl fails,
      binary_of_left_error present present' rfl fails,
      ne_divisionByZero_of_fetchInt fails⟩
  rightError present' isInt fails :=
    ⟨binary_of_right_error rfl present' isInt fails,
      binary_of_right_error rfl present' isInt fails,
      ne_divisionByZero_of_fetchInt fails⟩
  zeroDivisor isInt isInt' := by
    rw [binary_intDiv_of_ints isInt isInt', binary_intMod_of_ints isInt isInt']
    split
    case isTrue isZero => simp only [isZero, and_self]
    case isFalse nonzero => simp only [nonzero, reduceCtorEq, and_self]
  division {m n} isInt isInt' nonzero := by
    refine ⟨m / n, m % n, ?_, ?_, isDivision_div_mod m nonzero⟩
    · rw [binary_intDiv_of_ints isInt isInt', if_neg nonzero]
    · rw [binary_intMod_of_ints isInt isInt', if_neg nonzero]

/-- The quotient that wraps around. -/
example :
    binary .intDiv (.int Int64.minValue) (.int (-1)) = .ok (.int Int64.minValue) ∧
      binary .intMod (.int Int64.minValue) (.int (-1)) = .ok (.int 0) := by
  decide

end Eval

end Formula
