import Formula.Eval.Builtin
import Formula.Proofs.Eval.IntegerOperands
import Formula.Proofs.Grammar.Literals
import Mathlib.Data.List.Forall2

/-!
# Strings that spell a literal

A string that spells a number or a truth value is converted like the literal that
it spells, to anything but a text.  So wherever an operand is converted before
anything is computed, the string and the literal lead to the same value or to the
same error.
-/

namespace Formula

/-! ## Conversions -/

namespace Value

/-- Two values cannot be told apart by what they are converted to, unless it is a
text. -/
structure SameConversions (old new : Value) : Prop extends SameInt old new where
  castFloat_eq : old.castFloat = new.castFloat
  castBool_eq : old.castBool = new.castBool
  castNumeric_eq : old.castNumeric = new.castNumeric

theorem SameConversions.refl (value : Value) : SameConversions value value :=
  { SameInt.refl value with
    castFloat_eq := rfl, castBool_eq := rfl, castNumeric_eq := rfl }

theorem exists_token_of_ofLiteral?
    {text : String}
    {value : Value}
    (spelled : ofLiteral? text = some value) :
    ∃ token : Token, token.literalValue? = some value := by
  rw [ofLiteral?] at spelled
  rcases Option.bind_eq_some_iff.mp spelled with ⟨found, isFound, rest⟩
  refine ⟨_, isFound.trans ?_⟩
  dsimp only at rest
  split at rest
  · exact congrArg some (Option.some.inj rest)
  · cases rest

/-- What a text can spell is a number or a truth value. -/
theorem scalar_of_ofLiteral?
    {text : String}
    {value : Value}
    (spelled : ofLiteral? text = some value) :
    (∃ n, value = int n) ∨ (∃ x, value = float x) ∨ ∃ b, value = bool b := by
  rcases exists_token_of_ofLiteral? spelled with ⟨token, isValue⟩
  rw [Token.literalValue?] at isValue
  split at isValue
  case h_1 | h_2 =>
    rcases Option.map_eq_some_iff.mp isValue with ⟨n | x, _, rfl⟩
    · exact .inl ⟨n, rfl⟩
    · exact .inr (.inl ⟨x, rfl⟩)
  case h_3 | h_4 =>
    obtain rfl := Option.some.inj isValue
    exact .inr (.inr ⟨_, rfl⟩)
  case h_5 => cases isValue

theorem literalOf_of_ofLiteral?
    {text : String}
    {value : Value}
    (spelled : ofLiteral? text = some value)
    (type : ValueType) :
    literalOf text type = .ok value := by
  rw [literalOf, spelled]

/-- A string is converted like the literal that it spells. -/
theorem sameConversions_of_ofLiteral?
    {text : String}
    {value : Value}
    (spelled : ofLiteral? text = some value) :
    SameConversions (str text) value := by
  have isLiteral := literalOf_of_ofLiteral? spelled
  rcases scalar_of_ofLiteral? spelled with ⟨n, rfl⟩ | ⟨x, rfl⟩ | ⟨b, rfl⟩
  all_goals
    constructor
    case toSameInt => exact ⟨rfl, rfl, by rw [castInt, isLiteral]; rfl⟩
    case castFloat_eq => rw [castFloat, isLiteral]; rfl
    case castBool_eq => rw [castBool, isLiteral]; rfl
    case castNumeric_eq => rw [castNumeric, isLiteral]; rfl

namespace SameConversions

variable {old new : Value} (same : SameConversions old new)
include same

theorem fetchFloat_eq : old.fetchFloat = new.fetchFloat := by
  rw [fetchFloat, fetchFloat, same.castFloat_eq]

theorem fetchBool_eq : old.fetchBool = new.fetchBool := by
  rw [fetchBool, fetchBool, same.castBool_eq]

theorem truthy_eq : old.truthy = new.truthy := by
  rw [truthy, truthy, same.isEmpty_eq, same.fetchBool_eq]

end SameConversions

end Value

/-! ## Operators -/

/-- The operators between two operands that compute on numbers or on truth
values. -/
def Op.convertsOperands : Op → Bool
  | add | sub | mul | div | rem | pow => true
  | intAdd | intSub | intMul | intDiv | intMod => true
  | bitAnd | bitOr | bitXor | xor => true
  | intEq | intNe | intLt | intGt | intLe | intGe | intCmp => true
  | _ => false

/-- The comparisons that compare two strings as texts, and all else as numbers. -/
def Op.comparesTexts : Op → Bool
  | eq | ne | lt | gt | le | ge | cmp => true
  | _ => false

/-- The operators in front of one operand that compute on a number or a truth
value. -/
def Op.convertsOperand : Op → Bool
  | not | bitNot | plus | minus | toInt | toFloat | toBool | positive | negative |
    decibel => true
  | _ => false

namespace Eval

open Value

variable {left left' right right' : Value}

section

variable (same : SameConversions left left')
  (sameRight : SameConversions right right')
include same sameRight

theorem arithmetic_congr
    (op : Op) :
    arithmetic op left right = arithmetic op left' right' := by
  rw [arithmetic, arithmetic,
    emptyOperand_congr same.toSameInt sameRight.toSameInt, same.castNumeric_eq,
    sameRight.castNumeric_eq]

/-- Operators that convert both operands cannot tell them from others with the
same conversions. -/
theorem binary_congr
    {op : Op}
    (converts : op.convertsOperands) :
    binary op left right = binary op left' right' := by
  have truths : binary .xor left right = binary .xor left' right' := by
    rw [binary, binary, same.truthy_eq, sameRight.truthy_eq]
  cases op
  case add | sub | mul | div | rem | pow =>
    rw [binary, binary]
    exact arithmetic_congr same sameRight _
  case intAdd | intSub | intMul | intDiv | intMod =>
    exact binary_congr_of_sameInt same.toSameInt sameRight.toSameInt rfl
  case bitAnd | bitOr | bitXor | intEq | intNe | intLt | intGt | intLe |
    intGe | intCmp =>
      exact binary_congr_of_sameInt same.toSameInt sameRight.toSameInt rfl
  case xor => exact truths
  all_goals cases converts

end

/-- Unless both are strings, two values are compared as numbers. -/
theorem valueOrdering_of_ne_str
    (notTexts : left.type ≠ .string ∨ right.type ≠ .string) :
    valueOrdering left right =
      match nullOrdering? left right with
      | some ordering => .ok (some ordering)
      | none => do
        let x ← left.fetchFloat
        let y ← right.fetchFloat
        return floatOrdering? x y := by
  unfold valueOrdering
  split
  case h_1 => exact absurd rfl (notTexts.elim id id)
  case h_2 => rfl

/-- A comparison with something that is no string is one of numbers. -/
theorem comparison_of_numbers_congr
    (same : SameConversions left left')
    (sameRight : SameConversions right right')
    (notTexts : left.type ≠ .string ∨ right.type ≠ .string)
    (notTexts' : left'.type ≠ .string ∨ right'.type ≠ .string)
    {op : Op}
    (compares : op.comparesTexts) :
    binary op left right = binary op left' right' := by
  have sameOrder : valueOrdering left right = valueOrdering left' right' := by
    rw [valueOrdering_of_ne_str notTexts, valueOrdering_of_ne_str notTexts',
      nullOrdering?_congr same.toSameInt sameRight.toSameInt, same.fetchFloat_eq,
      sameRight.fetchFloat_eq]
  cases op
  case eq | ne | lt | gt | le | ge | cmp =>
    exact comparison_congr same.toSameInt sameRight.toSameInt sameOrder _
  all_goals cases compares

theorem negate_congr
    (same : SameConversions left left') :
    negate left = negate left' := by
  rw [negate, negate, same.castNumeric_eq]

theorem unaryOnPresent_congr
    (same : SameConversions left left')
    {op : Op}
    (converts : op.convertsOperand) :
    unaryOnPresent op left = unaryOnPresent op left' := by
  cases op
  case plus => exact same.castNumeric_eq
  case minus => exact negate_congr same
  case bitNot => rw [unaryOnPresent, unaryOnPresent, same.fetchInt_eq]
  case positive | negative | decibel =>
    rw [unaryOnPresent, unaryOnPresent, same.fetchFloat_eq]
  case not | toInt | toFloat | toBool => rfl
  all_goals cases converts

/-- Operators that convert their operand cannot tell it from another with the same
conversions. -/
theorem unary_congr
    (same : SameConversions left left')
    {op : Op}
    (converts : op.convertsOperand) :
    unary op left = unary op left' := by
  by_cases isEmpty : left.isEmpty
  · rw [same.eq_of_isEmpty isEmpty]
  have present := isEmpty
  rw [same.isEmpty_eq] at present
  have onPresent := unaryOnPresent_congr same converts
  cases op
  case not => rw [unary, unary, same.truthy_eq]
  case toInt => exact same.castInt_eq
  case toFloat => exact same.castFloat_eq
  case toBool => exact same.castBool_eq
  case toText => cases converts
  all_goals simp only [unary, if_neg isEmpty, if_neg present, onPresent]

end Eval

/-! ## Built-in functions -/

namespace Builtin

open Value

variable {old new : List Value}

theorem any_congr
    {test : Value → Bool}
    (sameTest :
      ∀ {left right}, SameConversions left right → test left = test right)
    (same : List.Forall₂ SameConversions old new) :
    old.any test = new.any test := by
  induction same with
  | nil => rfl
  | cons first _ ih => rw [List.any_cons, List.any_cons, sameTest first, ih]

theorem degenerate?_congr (same : List.Forall₂ SameConversions old new) :
    degenerate? old = degenerate? new := by
  have empty : old.isEmpty = new.isEmpty := by
    cases same <;> rfl
  rw [degenerate?, degenerate?, empty,
    any_congr (fun alike => alike.isAbsent_eq) same,
    any_congr (fun alike => alike.isNull_eq) same]

theorem fetchFloats_congr (same : List.Forall₂ SameConversions old new) :
    old.mapM fetchFloat = new.mapM fetchFloat := by
  induction same with
  | nil => rfl
  | cons first _ ih => rw [List.mapM_cons, List.mapM_cons, first.fetchFloat_eq, ih]

theorem onFloats_congr
    (same : List.Forall₂ SameConversions old new)
    {compute : List Value → List Float → Except Error Value}
    (sameResult : ∀ xs, compute old xs = compute new xs) :
    onFloats compute old = onFloats compute new := by
  simp only [onFloats, degenerate?_congr same, fetchFloats_congr same, sameResult]

/-- Beside the same floats, the same place wins. -/
theorem winner_congr
    (better : Float → Float → Bool)
    {best best' : Value × Float}
    (sameBest : SameConversions best.1 best'.1 ∧ best.2 = best'.2)
    {rest rest' : List (Value × Float)}
    (sameRest :
      List.Forall₂ (fun p q => SameConversions p.1 q.1 ∧ p.2 = q.2) rest rest') :
    SameConversions (winner better best rest) (winner better best' rest') := by
  induction sameRest generalizing best best' with
  | nil => exact sameBest.1
  | cons first _ ih =>
      rw [winner, winner, first.2, sameBest.2]
      apply ih
      split
      · exact first
      · exact sameBest

theorem forall₂_zip
    (same : List.Forall₂ SameConversions old new)
    (xs : List Float) :
    List.Forall₂ (fun p q => SameConversions p.1 q.1 ∧ p.2 = q.2)
      (old.zip xs) (new.zip xs) := by
  induction same generalizing xs with
  | nil => exact .nil
  | cons first _ ih =>
      cases xs with
      | nil => exact .nil
      | cons x xs => exact .cons ⟨first, rfl⟩ (ih xs)

theorem select_congr
    (same : List.Forall₂ SameConversions old new)
    (better : Float → Float → Bool) :
    select better old = select better new := by
  apply onFloats_congr same
  intro xs
  have sameZip := forall₂_zip same xs
  generalize old.zip xs = pairs at sameZip
  generalize new.zip xs = pairs' at sameZip
  cases sameZip with
  | nil => rfl
  | cons first rest => exact (winner_congr better first rest).castNumeric_eq

/-- Built-in functions cannot tell arguments from others with the same
conversions. -/
theorem call_congr
    (same : List.Forall₂ SameConversions old new)
    (name : String) :
    call name old = call name new := by
  unfold call
  split
  case h_1 | h_4 => exact onFloats_congr same fun _ => rfl
  case h_2 | h_3 => exact select_congr same _
  case h_5 => rfl

end Builtin

/-! ## Trees -/

namespace Expr

open Dialogue Value

variable {resolver : Resolver} {tree tree' : Expr} {old new : Value}

/-- Dialogues that go on alike come to the same. -/
theorem run_bind_congr
    {α β : Type}
    (dialogue : Dialogue α)
    {next next' : α → Dialogue β}
    (same : ∀ result, (next result).run resolver = (next' result).run resolver) :
    (dialogue >>= next).run resolver = (dialogue >>= next').run resolver := by
  rw [run_bind, run_bind]
  exact congrArg _ (funext same)

section

variable (computed : tree.evaluate.run resolver = .ok old)
  (computed' : tree'.evaluate.run resolver = .ok new)
include computed computed'

/-- What decides between two trees is a truth value. -/
theorem run_truthy_congr
    (sameTruth : old.truthy = new.truthy)
    {α : Type}
    (next : Bool → Dialogue α) :
    (do next (← (← tree.evaluate).truthy)).run resolver =
      (do next (← (← tree'.evaluate).truthy)).run resolver := by
  rw [run_bind, run_bind, computed, computed']
  show (liftM old.truthy >>= next).run resolver =
    (liftM new.truthy >>= next).run resolver
  rw [sameTruth]

/-- A condition counts by its truth value. -/
theorem run_conditional_congr
    (sameTruth : old.truthy = new.truthy)
    (yes no : Expr) :
    (conditional tree yes no).evaluate.run resolver =
      (conditional tree' yes no).evaluate.run resolver := by
  rw [evaluate, evaluate]
  exact run_truthy_congr computed computed' sameTruth _

/-- The first operand of `and` and of `or` counts by its truth value. -/
theorem run_junction_left_congr
    (sameTruth : old.truthy = new.truthy)
    (right : Expr)
    {op : Op}
    (isJunction : op = .and ∨ op = .or) :
    (binary op tree right).evaluate.run resolver =
      (binary op tree' right).evaluate.run resolver := by
  rcases isJunction with rfl | rfl
  all_goals
    rw [evaluate, evaluate]
    exact run_truthy_congr computed computed' sameTruth _

/-- The second operand of `and` and of `or` counts by its truth value, if it
counts at all. -/
theorem run_junction_right_congr
    (sameTruth : old.truthy = new.truthy)
    (left : Expr)
    {op : Op}
    (isJunction : op = .and ∨ op = .or) :
    (binary op left tree).evaluate.run resolver =
      (binary op left tree').evaluate.run resolver := by
  have sameRight := run_truthy_congr computed computed' sameTruth fun holds =>
    pure (Value.bool holds)
  rcases isJunction with rfl | rfl
  all_goals
    rw [evaluate, evaluate]
    refine run_bind_congr _ fun value => run_bind_congr _ fun holds => ?_
    cases holds
    all_goals first | rfl | exact sameRight

/-- An index counts by its integer, also under `ex`. -/
theorem run_index_congr
    (sameInt : old.fetchInt = new.fetchInt)
    (name : String)
    (before after : List Expr) :
    (var name (before ++ tree :: after)).evaluate.run resolver =
        (var name (before ++ tree' :: after)).evaluate.run resolver ∧
      (unary .defined (var name (before ++ tree :: after))).evaluate.run resolver =
        (unary .defined
          (var name (before ++ tree' :: after))).evaluate.run resolver :=
  run_lookup_congr (run_indices_congr computed computed' sameInt before after) name

end

end Expr

/-! ## Operands -/

open Value

/-- Where the operand of a tree counts by its truth value or as an integer, one
tree leads to what the other one leads to. -/
structure Expr.CountsAs (resolver : Resolver) (tree tree' : Expr) : Prop where
  condition (yes no : Expr) :
    (conditional tree yes no).evaluate.run resolver =
      (conditional tree' yes no).evaluate.run resolver
  left {op : Op} (isJunction : op = .and ∨ op = .or) (other : Expr) :
    (binary op tree other).evaluate.run resolver =
      (binary op tree' other).evaluate.run resolver
  right {op : Op} (isJunction : op = .and ∨ op = .or) (other : Expr) :
    (binary op other tree).evaluate.run resolver =
      (binary op other tree').evaluate.run resolver
  index (name : String) (before after : List Expr) :
    (var name (before ++ tree :: after)).evaluate.run resolver =
        (var name (before ++ tree' :: after)).evaluate.run resolver ∧
      (unary .defined (var name (before ++ tree :: after))).evaluate.run resolver =
        (unary .defined
          (var name (before ++ tree' :: after))).evaluate.run resolver

/-- Wherever an operand is converted to anything but a text, one value leads to
what the other one leads to. -/
structure Value.CountsAs (old new : Value) : Prop where
  left {op : Op} (converts : op.convertsOperands) (other : Value) :
    Eval.binary op old other = Eval.binary op new other
  right {op : Op} (converts : op.convertsOperands) (other : Value) :
    Eval.binary op other old = Eval.binary op other new
  compared {op : Op} (compares : op.comparesTexts) {other : Value}
      (noText : other.type ≠ .string) :
    Eval.binary op old other = Eval.binary op new other ∧
      Eval.binary op other old = Eval.binary op other new
  alone {op : Op} (converts : op.convertsOperand) :
    Eval.unary op old = Eval.unary op new
  count (text : Value) :
    Eval.binary .replicate text old = Eval.binary .replicate text new
  argument (name : String) (before after : List Value) :
    Builtin.call name (before ++ old :: after) =
      Builtin.call name (before ++ new :: after)
  tree {resolver : Resolver} {tree tree' : Expr}
      (computed : tree.evaluate.run resolver = .ok old)
      (computed' : tree'.evaluate.run resolver = .ok new) :
    tree.CountsAs resolver tree'

theorem Value.SameConversions.countsAs
    {old new : Value}
    (same : SameConversions old new) :
    CountsAs old new where
  left converts other := Eval.binary_congr same (.refl other) converts
  right converts other := Eval.binary_congr (.refl other) same converts
  compared compares other noText :=
    ⟨Eval.comparison_of_numbers_congr same (.refl other) (.inr noText)
        (.inr noText) compares,
      Eval.comparison_of_numbers_congr (.refl other) same (.inl noText)
        (.inl noText) compares⟩
  alone converts := Eval.unary_congr same converts
  count text := Eval.replicate_congr text same.toSameInt
  argument name _ _ :=
    Builtin.call_congr
      (List.rel_append (List.forall₂_same.mpr fun value _ => .refl value)
        (.cons same (List.forall₂_same.mpr fun value _ => .refl value))) name
  tree computed computed' := {
    condition := Expr.run_conditional_congr computed computed' same.truthy_eq
    left := fun isJunction other =>
      Expr.run_junction_left_congr computed computed' same.truthy_eq
        other isJunction
    right := fun isJunction other =>
      Expr.run_junction_right_congr computed computed' same.truthy_eq
        other isJunction
    index := Expr.run_index_congr computed computed' same.fetchInt_eq }

/-- A string that spells a number or a truth value counts as the literal. -/
theorem Value.countsAs_of_ofLiteral?
    {text : String}
    {value : Value}
    (spelled : ofLiteral? text = some value) :
    CountsAs (str text) value :=
  (sameConversions_of_ofLiteral? spelled).countsAs

/-- A signed number between blanks counts as the number. -/
theorem Value.countsAs_of_ofLiteral?_signed :
    ofLiteral? " -0x1F " = some (int (-31)) ∧
      CountsAs (str " -0x1F ") (int (-31)) := by
  have spelled : ofLiteral? " -0x1F " = some (int (-31)) := by
    rw [Grammar.ofLiteral?_eq_some_iff]
    decide +kernel
  exact ⟨spelled, countsAs_of_ofLiteral? spelled⟩

end Formula
