import Formula.Proofs.Eval.SpelledLiterals
import Formula.Proofs.Number.Order
import Formula.Proofs.Number.Rounding
import Formula.Proofs.Parse.Trees

/-!
# Comparisons and their mirror images

There are two families of comparisons, those of values and those of integers.
Which order decides depends on both operands: texts are compared as texts, an
explicit nothing comes before everything else, and all else is a number.  Every
one of these orders turns around with its operands, so that a comparison says the
same from either side.  Except beside an absent value or a NaN, the operands are
in exactly one order, and all comparisons of a family agree on it.
-/

namespace Formula

/-! ## Families of comparisons -/

/-- Two values are compared as texts or as numbers, or else as integers. -/
inductive Family where
  | values
  | ints

/-- What is asked about the order of two operands. -/
inductive Test where
  | is (order : Ordering)
  | isNot (order : Ordering)

namespace Test

/-- The same question from the other side. -/
def mirrored : Test → Test
  | is order => is order.swap
  | isNot order => isNot order.swap

/-- Whether operands in the given order pass the test. -/
def holds : Test → Ordering → Bool
  | is order, found => found = order
  | isNot order, found => found ≠ order

theorem mirrored_mirrored (test : Test) : test.mirrored.mirrored = test := by
  cases test <;> simp [mirrored]

end Test

/-- The operator that puts a test. -/
def Family.test : Family → Test → Op
  | values, .is .lt => .lt
  | values, .is .eq => .eq
  | values, .is .gt => .gt
  | values, .isNot .lt => .ge
  | values, .isNot .eq => .ne
  | values, .isNot .gt => .le
  | ints, .is .lt => .intLt
  | ints, .is .eq => .intEq
  | ints, .is .gt => .intGt
  | ints, .isNot .lt => .intGe
  | ints, .isNot .eq => .intNe
  | ints, .isNot .gt => .intLe

/-- The operator that says in which order its operands are. -/
def Family.cmp : Family → Op
  | values => .cmp
  | ints => .intCmp

/-- The order that decides in the family. -/
def Family.order : Family → Value → Value → Except Error (Option Ordering)
  | values => Eval.valueOrdering
  | ints => Eval.intOrdering

/-- The family of a comparison. -/
def Op.family? : Op → Option Family
  | lt | eq | gt | ge | ne | le | cmp => some .values
  | intLt | intEq | intGt | intGe | intNe | intLe | intCmp => some .ints
  | _ => none

theorem Family.family?_test (family : Family) (test : Test) :
    (family.test test).family? = some family := by
  cases family <;> rcases test with (_ | _ | _) | (_ | _ | _) <;> rfl

theorem Family.family?_cmp
    (family : Family) :
    family.cmp.family? = some family := by
  cases family <;> rfl

/-! ## Values as numbers -/

namespace Value

/-- What a text spells is no NaN. -/
theorem notNaN_of_ofLiteral?
    {text : String}
    {value : Value}
    (spelled : ofLiteral? text = some value) :
    value.NotNaN := by
  rw [Grammar.ofLiteral?_eq_some_iff] at spelled
  have isLiteral := (Grammar.literalValue?_eq_some_iff.mp spelled.1).1
  exact (Tokenizer.good_scan _ _).value value
    (Grammar.constant?_eq_some_iff.mpr isLiteral)

theorem isNaN_of_castPlainFloat
    {value : Value}
    (notNaN : value.NotNaN)
    {x : Float}
    (isFloat : value.castPlainFloat = float x) :
    x.isNaN = false := by
  cases value with
  | absent | null | str => cases isFloat
  | int n =>
      obtain rfl := float.inj isFloat
      exact Number.isNaN_ofInt (Number.natAbs_toInt_lt n)
  | float y => exact notNaN x isFloat
  | bool b =>
      obtain rfl := float.inj isFloat
      cases b <;> decide +kernel

theorem castFloat_of_fetchFloat
    {value : Value}
    {x : Float}
    (isFloat : value.fetchFloat = .ok x) :
    value.castFloat = .ok (float x) := by
  rw [fetchFloat] at isFloat
  rcases exists_ok_of_bind isFloat with ⟨number, isNumber, isFloat⟩
  cases number with
  | float y =>
      obtain rfl := Except.ok.inj isFloat
      exact isNumber
  | _ => cases isFloat

/-- What is no NaN does not count as one, nor does any text. -/
theorem isNaN_of_fetchFloat
    {value : Value}
    (notNaN : value.NotNaN)
    {x : Float}
    (isFloat : value.fetchFloat = .ok x) :
    x.isNaN = false := by
  have converted := castFloat_of_fetchFloat isFloat
  cases value with
  | str text =>
      rw [castFloat, literalOf] at converted
      cases spelled : ofLiteral? text with
      | none =>
          rw [spelled] at converted
          cases converted
      | some literal =>
          rw [spelled] at converted
          exact isNaN_of_castPlainFloat (notNaN_of_ofLiteral? spelled)
            (Except.ok.inj converted)
  | _ => exact isNaN_of_castPlainFloat notNaN (Except.ok.inj converted)

theorem isAbsent_eq_false
    {value : Value}
    (present : value ≠ absent) :
    value.isAbsent = false := by
  cases value <;> first | rfl | exact absurd rfl present

/-- The opposite of what an order is as a number. -/
def opposite : Value → Value
  | int n => int (-n)
  | value => value

theorem opposite_opposite (value : Value) : value.opposite.opposite = value := by
  cases value with
  | int n => exact congrArg int (Int64.neg_neg)
  | _ => rfl

end Value

/-! ## Orders -/

namespace Eval

open Value

/-- An order in which nothing comes first, and all else is in the order of some
payload. -/
def payloadOrdering
    {α : Type}
    (fetch : Value → Except Error α)
    (order : α → α → Option Ordering)
    (left right : Value) :
    Except Error (Option Ordering) :=
  match nullOrdering? left right with
  | some ordering => .ok (some ordering)
  | none => do
    let x ← fetch left
    let y ← fetch right
    return order x y

variable {left right : Value} {ordering : Option Ordering}

theorem nullOrdering?_swap (left right : Value) :
    nullOrdering? right left = (nullOrdering? left right).map Ordering.swap := by
  rw [nullOrdering?, nullOrdering?]
  cases left.isNull <;> cases right.isNull <;> rfl

section

variable {α : Type} {fetch : Value → Except Error α}
  {order : α → α → Option Ordering}

/-- An order is found because of nothing, or because both operands have a
payload. -/
theorem payloadOrdering_cases
    (compared : payloadOrdering fetch order left right = .ok ordering) :
    (∃ found, nullOrdering? left right = some found ∧ ordering = some found) ∨
      nullOrdering? left right = none ∧
        ∃ x y, fetch left = .ok x ∧ fetch right = .ok y ∧
        ordering = order x y := by
  rw [payloadOrdering] at compared
  split at compared
  case h_1 found isNull =>
      exact .inl ⟨found, isNull, (Except.ok.inj compared).symm⟩
  case h_2 notNull =>
    rcases exists_ok_of_bind compared with ⟨x, isLeft, compared⟩
    rcases exists_ok_of_bind compared with ⟨y, isRight, compared⟩
    exact .inr ⟨notNull, x, y, isLeft, isRight, (Except.ok.inj compared).symm⟩

theorem payloadOrdering_swap
    (swaps : ∀ x y, order y x = (order x y).map Ordering.swap)
    (compared : payloadOrdering fetch order left right = .ok ordering) :
    payloadOrdering fetch order right left = .ok (ordering.map Ordering.swap) := by
  rw [payloadOrdering, nullOrdering?_swap left right]
  rcases payloadOrdering_cases compared with
    ⟨found, isNull, rfl⟩ | ⟨notNull, x, y, isLeft, isRight, rfl⟩
  · rw [isNull]
    rfl
  · rw [notNull, isLeft, isRight, ← swaps]
    rfl

theorem exists_order_of_payload
    (total : ∀ x y, fetch left = .ok x → fetch right = .ok y →
      ∃ found, order x y = some found)
    (compared : payloadOrdering fetch order left right = .ok ordering) :
    ∃ found, ordering = some found := by
  rcases payloadOrdering_cases compared with
    ⟨found, _, isFound⟩ | ⟨_, x, y, isLeft, isRight, rfl⟩
  · exact ⟨found, isFound⟩
  · exact total x y isLeft isRight

end

/-- Unless both are texts, values are in the order of their floats. -/
theorem valueOrdering_eq (notTexts : left.type ≠ .string ∨ right.type ≠ .string) :
    valueOrdering left right =
      payloadOrdering fetchFloat floatOrdering? left right :=
  valueOrdering_of_ne_str notTexts

theorem textOrdering_swap
    (s t : String) :
    textOrdering t s = (textOrdering s t).swap :=
  Std.OrientedOrd.eq_swap

/-- Two texts, or two values that are not. -/
theorem texts_or (left right : Value) :
    (∃ s t, left = .str s ∧ right = .str t) ∨ left.type ≠ .string ∨
      right.type ≠ .string := by
  cases left with
  | str s =>
      cases right with
      | str t => exact .inl ⟨s, t, rfl, rfl⟩
      | _ => exact .inr (.inr nofun)
  | _ => exact .inr (.inl nofun)

end Eval

namespace Family

open Eval Value

variable {family : Family} {left right : Value} {ordering : Option Ordering}

/-- Every order turns around with its operands. -/
theorem order_swap (compared : family.order left right = .ok ordering) :
    family.order right left = .ok (ordering.map Ordering.swap) := by
  -- Swapped operands are of the same kinds, so that the
  -- same kind of order decides.
  cases family with
  | ints =>
      apply payloadOrdering_swap _ compared
      intro m n
      exact congrArg some Std.OrientedOrd.eq_swap
  | values =>
      rcases texts_or left right with ⟨s, t, rfl, rfl⟩ | notTexts
      · obtain rfl := Except.ok.inj compared
        exact congrArg (Except.ok ∘ some) (textOrdering_swap s t)
      · rw [order, valueOrdering_eq notTexts] at compared
        rw [order, valueOrdering_eq notTexts.symm]
        exact payloadOrdering_swap Number.floatOrdering?_swap compared

/-- Unless there is a NaN, compared operands are in some order. -/
theorem exists_order
    (notNaN : left.NotNaN)
    (notNaN' : right.NotNaN)
    (compared : family.order left right = .ok ordering) :
    ∃ found, ordering = some found := by
  cases family with
  | ints => exact exists_order_of_payload (fun _ _ _ _ => ⟨_, rfl⟩) compared
  | values =>
      rcases texts_or left right with ⟨s, t, rfl, rfl⟩ | notTexts
      · exact ⟨_, (Except.ok.inj compared).symm⟩
      · rw [order, valueOrdering_eq notTexts] at compared
        -- Only floats can be in no order, and none of these is a NaN.
        apply exists_order_of_payload _ compared
        intro x y isLeft isRight
        exact ⟨_, Number.floatOrdering?_eq_compare_rank
          (isNaN_of_fetchFloat notNaN isLeft)
          (isNaN_of_fetchFloat notNaN' isRight)⟩

end Family

/-! ## Comparisons -/

namespace Eval

open Value

variable {family : Family} {left right : Value}

/-- All comparisons of a family ask its order. -/
theorem binary_of_family
    {op : Op}
    (inFamily : op.family? = some family)
    (left right : Value) :
    binary op left right = comparison family.order op left right := by
  cases op
  case lt | eq | gt | ge | ne | le | cmp =>
    obtain rfl := Option.some.inj inFamily
    rfl
  case intLt | intEq | intGt | intGe | intNe | intLe | intCmp =>
    obtain rfl := Option.some.inj inFamily
    rfl
  all_goals cases inFamily

section

variable {order : Value → Value → Except Error (Option Ordering)}

/-- An absent operand decides every comparison. -/
theorem comparison_of_absent
    (isAbsent : left = .absent ∨ right = .absent)
    (op : Op) :
    comparison order op left right = .ok .absent := by
  rcases isAbsent with rfl | rfl
  · rfl
  · exact if_pos (Bool.or_true _)

/-- Otherwise the order does. -/
theorem comparison_eq_map
    (present : left ≠ .absent)
    (present' : right ≠ .absent)
    (op : Op) :
    comparison order op left right = comparisonResult op <$> order left right := by
  rw [comparison, isAbsent_eq_false present, isAbsent_eq_false present']
  rfl

theorem comparison_cases
    {op : Op}
    {value : Value}
    (compared : comparison order op left right = .ok value) :
    (left = .absent ∨ right = .absent) ∧ value = .absent ∨
      (left ≠ .absent ∧ right ≠ .absent) ∧
        ∃ ordering, order left right = .ok ordering ∧
        value = comparisonResult op ordering := by
  by_cases isAbsent : left = .absent ∨ right = .absent
  · rw [comparison_of_absent isAbsent] at compared
    exact .inl ⟨isAbsent, (Except.ok.inj compared).symm⟩
  · rcases not_or.mp isAbsent with ⟨present, present'⟩
    rw [comparison_eq_map present present'] at compared
    cases isOrder : order left right with
    | ok ordering =>
        rw [isOrder] at compared
        exact .inr ⟨⟨present, present'⟩, ordering, rfl,
          (Except.ok.inj compared).symm⟩
    | error e =>
        rw [isOrder] at compared
        cases compared

end

/-- If one comparison succeeds, then so do all of the family from the other side:
an absent operand decides them too, or else the same order does, turned around. -/
theorem swapped_cases
    {op : Op}
    (inFamily : op.family? = some family)
    {value : Value}
    (compared : binary op left right = .ok value) :
    (value = .absent ∧ ∀ op' : Op, op'.family? = some family →
        binary op' right left = .ok .absent) ∨
      ∃ ordering, value = comparisonResult op ordering ∧
        ∀ op' : Op, op'.family? = some family →
          binary op' right left =
            .ok (comparisonResult op' (ordering.map Ordering.swap)) := by
  rw [binary_of_family inFamily] at compared
  rcases comparison_cases compared with
    ⟨isAbsent, rfl⟩ | ⟨present, ordering, isOrder, rfl⟩
  · refine .inl ⟨rfl, fun op' inFamily' => ?_⟩
    rw [binary_of_family inFamily', comparison_of_absent isAbsent.symm]
  · refine .inr ⟨ordering, rfl, fun op' inFamily' => ?_⟩
    rw [binary_of_family inFamily', comparison_eq_map present.2 present.1,
      Family.order_swap isOrder]
    rfl

theorem comparisonResult_mirrored
    (family : Family)
    (test : Test)
    (ordering : Option Ordering) :
    comparisonResult (family.test test.mirrored) (ordering.map Ordering.swap) =
      comparisonResult (family.test test) ordering := by
  cases family <;> rcases test with (_ | _ | _) | (_ | _ | _) <;>
    rcases ordering with _ | _ | _ | _ <;> rfl

theorem comparisonResult_opposite
    (family : Family)
    (ordering : Option Ordering) :
    comparisonResult family.cmp (ordering.map Ordering.swap) =
      (comparisonResult family.cmp ordering).opposite := by
  cases family <;> rcases ordering with _ | _ | _ | _ <;> rfl

theorem comparisonResult_test
    (family : Family)
    (test : Test)
    (found : Ordering) :
    comparisonResult (family.test test) (some found) =
      .bool (test.holds found) := by
  cases family <;> rcases test with (_ | _ | _) | (_ | _ | _) <;>
    cases found <;> rfl

theorem comparisonResult_cmp
    (family : Family)
    (found : Ordering) :
    comparisonResult family.cmp (some found) = .int (orderingValue found) := by
  cases family <;> rfl

/-- What the comparisons of a family say about two operands, from either side. -/
structure Mirrored (family : Family) (left right : Value) : Prop where
  succeeds {op op' : Op} (inFamily : op.family? = some family)
      (inFamily' : op'.family? = some family) :
    (∃ value, binary op left right = .ok value) ↔
      ∃ value, binary op' right left = .ok value
  test (test : Test) (value : Value) :
    binary (family.test test) left right = .ok value ↔
      binary (family.test test.mirrored) right left = .ok value
  cmp (value : Value) :
    binary family.cmp left right = .ok value ↔
      binary family.cmp right left = .ok value.opposite
  one {op : Op} (inFamily : op.family? = some family) {value : Value}
      (compared : binary op left right = .ok value)
      (present : left ≠ .absent) (present' : right ≠ .absent)
      (notNaN : left.NotNaN) (notNaN' : right.NotNaN) :
    ∃ found : Ordering,
      (∀ test, binary (family.test test) left right =
        .ok (.bool (test.holds found))) ∧
          binary family.cmp left right = .ok (.int (orderingValue found))

/-- A comparison succeeds with what its mirror image makes of the result. -/
theorem binary_swapped
    {op op' : Op}
    (inFamily : op.family? = some family)
    (inFamily' : op'.family? = some family)
    (reflect : Value → Value)
    (absent : reflect .absent = .absent)
    (reflects : ∀ ordering : Option Ordering,
      comparisonResult op' (ordering.map Ordering.swap) =
        reflect (comparisonResult op ordering))
    {value : Value}
    (compared : binary op left right = .ok value) :
    binary op' right left = .ok (reflect value) := by
  rcases swapped_cases inFamily compared with
    ⟨rfl, swapped⟩ | ⟨ordering, rfl, swapped⟩
  · rw [swapped op' inFamily', absent]
  · rw [swapped op' inFamily', reflects]

theorem test_swapped
    {test : Test}
    {value : Value}
    (compared : binary (family.test test) left right = .ok value) :
    binary (family.test test.mirrored) right left = .ok value :=
  binary_swapped (family.family?_test test) (family.family?_test _) id rfl
    (comparisonResult_mirrored family test) compared

theorem cmp_swapped
    {value : Value}
    (compared : binary family.cmp left right = .ok value) :
    binary family.cmp right left = .ok value.opposite :=
  binary_swapped family.family?_cmp family.family?_cmp opposite rfl
    (comparisonResult_opposite family) compared

theorem succeeds_swapped
    {op op' : Op}
    (inFamily : op.family? = some family)
    (inFamily' : op'.family? = some family)
    (succeeds : ∃ value, binary op left right = .ok value) :
    ∃ value, binary op' right left = .ok value := by
  rcases succeeds with ⟨value, compared⟩
  rcases swapped_cases inFamily compared with ⟨_, swapped⟩ | ⟨_, _, swapped⟩
  · exact ⟨_, swapped op' inFamily'⟩
  · exact ⟨_, swapped op' inFamily'⟩

/-- Comparisons mirror, whatever the operands are. -/
theorem mirrored_binary
    (family : Family)
    (left right : Value) :
    Mirrored family left right where
  succeeds inFamily inFamily' :=
    ⟨succeeds_swapped inFamily inFamily', succeeds_swapped inFamily' inFamily⟩
  test test value := by
    refine ⟨test_swapped, fun swapped => ?_⟩
    rw [← test.mirrored_mirrored]
    exact test_swapped swapped
  cmp value := by
    refine ⟨cmp_swapped, fun swapped => ?_⟩
    rw [← value.opposite_opposite]
    exact cmp_swapped swapped
  one inFamily _ compared present present' notNaN notNaN' := by
    rw [binary_of_family inFamily] at compared
    rcases comparison_cases compared with ⟨isAbsent, _⟩ | ⟨_, ordering, isOrder, _⟩
    · exact absurd isAbsent (not_or.mpr ⟨present, present'⟩)
    rcases Family.exists_order notNaN notNaN' isOrder with ⟨found, rfl⟩
    refine ⟨found, fun test => ?_, ?_⟩
    · rw [binary_of_family (family.family?_test test),
        comparison_eq_map present present', isOrder,
        ← comparisonResult_test family]
      rfl
    · rw [binary_of_family family.family?_cmp, comparison_eq_map present present',
        isOrder, ← comparisonResult_cmp family]
      rfl

end Eval

end Formula
