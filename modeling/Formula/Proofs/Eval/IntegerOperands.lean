import Formula.Eval.Evaluate

/-!
# Operands that count as integers

An operator on integers asks three things of an operand: whether it is absent,
whether it is null, and which integer it counts as.  Operands with the same
answers cannot be told apart.  An operand that counts as no integer ends the
operation with its error, and of two such operands the left one does.  Indices
and the count of a repetition ask no more than that.  So it is the conversion
alone that says where a value serves as an integer, or is refused.
-/

namespace Formula

/-- The operators between two operands that compute on integers, whatever they
get. -/
def Op.computesOnInts : Op → Bool
  | intAdd | intSub | intMul | intDiv | intMod => true
  | bitAnd | bitOr | bitXor => true
  | intEq | intNe | intLt | intGt | intLe | intGe | intCmp => true
  | _ => false

/-- The error says that something should have been an integer. -/
def Error.WantsInt (e : Error) : Prop :=
  ∃ subject, e = .conversion subject (.value .int)

/-! ## Values -/

namespace Value

/-- Two values cannot be told apart where integers are needed. -/
structure SameInt (old new : Value) : Prop where
  isAbsent_eq : old.isAbsent = new.isAbsent
  isNull_eq : old.isNull = new.isNull
  castInt_eq : old.castInt = new.castInt

namespace SameInt

theorem refl (value : Value) : SameInt value value :=
  ⟨rfl, rfl, rfl⟩

variable {old new : Value} (same : SameInt old new)
include same

theorem isEmpty_eq : old.isEmpty = new.isEmpty := by
  rw [isEmpty, isEmpty, same.isAbsent_eq, same.isNull_eq]

theorem fetchInt_eq : old.fetchInt = new.fetchInt := by
  rw [fetchInt, fetchInt, same.castInt_eq]

/-- The empty values are told apart from all others. -/
theorem eq_of_isEmpty (isEmpty : old.isEmpty) : old = new := by
  cases old
  case absent =>
    have isAbsent := same.isAbsent_eq.symm
    cases new <;> first | rfl | cases isAbsent
  case null =>
    have isNull := same.isNull_eq.symm
    cases new <;> first | rfl | cases isNull
  all_goals cases isEmpty

end SameInt

/-- The empty values count as no integer. -/
theorem isEmpty_of_fetchInt
    {value : Value}
    {n : Int64}
    (isInt : value.fetchInt = .ok n) :
    value.isEmpty = false := by
  cases value with
  | absent | null => cases isInt
  | _ => rfl

section

variable {value : Value} {e : Error} (fails : value.castInt = .error e)
include fails

/-- The empty values are converted without an error. -/
theorem isEmpty_of_castInt_error : value.isEmpty = false := by
  cases value with
  | absent | null => cases fails
  | _ => rfl

theorem fetchInt_of_castInt_error : value.fetchInt = .error e := by
  rw [fetchInt, fails]
  rfl

end

theorem wantsInt_of_castPlainInt
    {value : Value}
    {e : Error}
    (fails : value.castPlainInt = .error e) :
    e.WantsInt := by
  cases value with
  | float x =>
      rw [castPlainInt, intOfFloat] at fails
      split at fails
      · cases fails
      · obtain rfl := Except.error.inj fails
        exact ⟨_, rfl⟩
  | _ => cases fails

theorem wantsInt_of_castInt
    {value : Value}
    {e : Error}
    (fails : value.castInt = .error e) :
    e.WantsInt := by
  cases value with
  | str s =>
      rw [castInt, literalOf] at fails
      cases spelled : ofLiteral? s with
      | some plain =>
          rw [spelled] at fails
          exact wantsInt_of_castPlainInt fails
      | none =>
          rw [spelled] at fails
          obtain rfl := Except.error.inj fails
          exact ⟨_, rfl⟩
  | absent | null | int | bool => cases fails
  | float x => exact @wantsInt_of_castPlainInt (float x) e fails

/-- What counts as no integer is named by the error, together with what it should
have been. -/
theorem wantsInt_of_fetchInt
    {value : Value}
    {e : Error}
    (fails : value.fetchInt = .error e) :
    e.WantsInt := by
  rw [fetchInt] at fails
  cases converted : value.castInt with
  | error e' =>
      rw [converted] at fails
      obtain rfl := Except.error.inj fails
      exact wantsInt_of_castInt converted
  | ok number =>
      rw [converted] at fails
      cases number with
      | int n => cases fails
      | absent | null | float | str | bool =>
          obtain rfl := Except.error.inj fails
          exact ⟨_, rfl⟩

end Value

/-! ## Operators -/

namespace Eval

open Value

section

variable {left left' right right' : Value}
variable (same : SameInt left left') (sameRight : SameInt right right')
include same sameRight

theorem emptyOperand_congr :
    emptyOperand left right = emptyOperand left' right' := by
  rw [emptyOperand, emptyOperand, same.isAbsent_eq, same.isNull_eq,
    sameRight.isAbsent_eq, sameRight.isNull_eq]

theorem onInts_congr (compute : Int64 → Int64 → Except Error Int64) :
    onInts compute left right = onInts compute left' right' := by
  rw [onInts, onInts, emptyOperand_congr same sameRight, same.fetchInt_eq,
    sameRight.fetchInt_eq]

theorem nullOrdering?_congr :
    nullOrdering? left right = nullOrdering? left' right' := by
  rw [nullOrdering?, nullOrdering?, same.isNull_eq, sameRight.isNull_eq]

theorem comparison_congr
    {order : Value → Value → Except Error (Option Ordering)}
    (sameOrder : order left right = order left' right')
    (op : Op) :
    comparison order op left right = comparison order op left' right' := by
  rw [comparison, comparison, same.isAbsent_eq, sameRight.isAbsent_eq, sameOrder]

theorem intOrdering_congr : intOrdering left right = intOrdering left' right' := by
  rw [intOrdering, intOrdering, nullOrdering?_congr same sameRight,
    same.fetchInt_eq, sameRight.fetchInt_eq]

/-- Operators on integers cannot tell operands apart that count as the same
integers. -/
theorem binary_congr_of_sameInt
    {op : Op}
    (onInts : op.computesOnInts) :
    binary op left right = binary op left' right' := by
  cases op
  case intAdd | intSub | intMul | intDiv | intMod =>
      exact onInts_congr same sameRight _
  case bitAnd | bitOr | bitXor => exact onInts_congr same sameRight _
  case intEq | intNe | intLt | intGt | intLe | intGe | intCmp =>
    exact comparison_congr same sameRight (intOrdering_congr same sameRight) _
  all_goals cases onInts

end

section

variable {left right : Value}

/-- A text is repeated as often as the count says, whatever stands for it. -/
theorem replicate_congr
    {count count' : Value}
    (text : Value)
    (same : SameInt count count') :
    binary .replicate text count = binary .replicate text count' := by
  by_cases isEmpty : count.isEmpty
  · rw [same.eq_of_isEmpty isEmpty]
  · have present := isEmpty
    rw [same.isEmpty_eq] at present
    rw [binary, binary, replicate, replicate, if_neg isEmpty, if_neg present,
      same.fetchInt_eq]

/-- An absent operand decides. -/
theorem emptyOperand_of_absent (isAbsent : left = .absent ∨ right = .absent) :
    emptyOperand left right = some .absent := by
  rcases isAbsent with rfl | rfl
  · rfl
  · cases left <;> rfl

/-- A null operand decides if none is absent. -/
theorem emptyOperand_of_null
    (notAbsent : left ≠ .absent)
    (notAbsent' : right ≠ .absent)
    (isNull : left = .null ∨ right = .null) :
    emptyOperand left right = some .null := by
  rcases isNull with rfl | rfl
  · cases right <;> first | rfl | exact absurd rfl notAbsent'
  · cases left <;> first | rfl | exact absurd rfl notAbsent

theorem onInts_of_emptyOperand
    {empty : Value}
    (decides : emptyOperand left right = some empty)
    (compute : Int64 → Int64 → Except Error Int64) :
    onInts compute left right = .ok empty := by
  rw [onInts, decides]

section

variable (present : left.isEmpty = false) (present' : right.isEmpty = false)
include present present'

theorem emptyOperand_of_present : emptyOperand left right = none := by
  rcases Bool.or_eq_false_iff.mp present with ⟨notAbsent, notNull⟩
  rcases Bool.or_eq_false_iff.mp present' with ⟨notAbsent', notNull'⟩
  rw [emptyOperand, notAbsent, notAbsent', notNull, notNull']
  rfl

theorem onInts_of_present (compute : Int64 → Int64 → Except Error Int64) :
    onInts compute left right = (do
      let m ← left.fetchInt
      let n ← right.fetchInt
      return .int (← compute m n)) := by
  rw [onInts, emptyOperand_of_present present present']

theorem comparison_of_present (op : Op) :
    comparison intOrdering op left right = (do
      let m ← left.fetchInt
      let n ← right.fetchInt
      return comparisonResult op (some (compare m.toInt n.toInt))) := by
  rcases Bool.or_eq_false_iff.mp present with ⟨notAbsent, notNull⟩
  rcases Bool.or_eq_false_iff.mp present' with ⟨notAbsent', notNull'⟩
  rw [comparison, notAbsent, notAbsent', intOrdering, nullOrdering?, notNull,
    notNull']
  cases left.fetchInt with
  | error e => rfl
  | ok m => cases right.fetchInt <;> rfl

/-- Where nothing is empty, an operator on integers starts with the integers of
its operands, the left one first. -/
theorem exists_binary_of_present
    {op : Op}
    (onInts : op.computesOnInts) :
    ∃ compute : Int64 → Int64 → Except Error Value,
      binary op left right = (do
        let m ← left.fetchInt
        let n ← right.fetchInt
        compute m n) := by
  cases op
  case intAdd | intSub | intMul | intDiv | intMod | bitAnd | bitOr | bitXor =>
    exact ⟨_, onInts_of_present present present' _⟩
  case intEq | intNe | intLt | intGt | intLe | intGe | intCmp =>
    exact ⟨_, comparison_of_present present present' _⟩
  all_goals cases onInts

/-- If the left operand counts as no integer, its error is the result. -/
theorem binary_of_left_error
    {op : Op}
    (onInts : op.computesOnInts)
    {e : Error}
    (fails : left.fetchInt = .error e) :
    binary op left right = .error e := by
  rcases exists_binary_of_present present present' onInts with ⟨compute, isBinary⟩
  rw [isBinary, fails]
  rfl

end

/-- If only the right operand counts as no integer, its error is the result. -/
theorem binary_of_right_error
    {op : Op}
    (onInts : op.computesOnInts)
    (present' : right.isEmpty = false)
    {m : Int64}
    (isInt : left.fetchInt = .ok m)
    {e : Error}
    (fails : right.fetchInt = .error e) :
    binary op left right = .error e := by
  rcases exists_binary_of_present (isEmpty_of_fetchInt isInt) present' onInts with
    ⟨compute, isBinary⟩
  rw [isBinary, isInt, fails]
  rfl

/-- A count that is no integer is refused, whatever the text. -/
theorem replicate_of_count_error
    (text : Value)
    {count : Value}
    (present : count.isEmpty = false)
    {e : Error}
    (fails : count.fetchInt = .error e) :
    binary .replicate text count = .error e := by
  rw [binary, replicate, present, fails]
  rfl

end

/-- Two values that count as the same integer have the same complement. -/
theorem unary_congr_of_sameInt
    {operand operand' : Value}
    (same : SameInt operand operand')
    {op : Op}
    (onInt : op = .toInt ∨ op = .bitNot) :
    unary op operand = unary op operand' := by
  rcases onInt with rfl | rfl
  · exact same.castInt_eq
  · by_cases isEmpty : operand.isEmpty
    · rw [same.eq_of_isEmpty isEmpty]
    · have present := isEmpty
      rw [same.isEmpty_eq] at present
      simp only [unary, if_neg isEmpty, if_neg present, unaryOnPresent,
        same.fetchInt_eq]

/-- What is not converted to an integer has no complement. -/
theorem unary_of_castInt_error
    {operand : Value}
    {e : Error}
    (fails : operand.castInt = .error e)
    {op : Op}
    (onInt : op = .toInt ∨ op = .bitNot) :
    unary op operand = .error e := by
  rcases onInt with rfl | rfl
  · exact fails
  · simp only [unary, isEmpty_of_castInt_error fails, unaryOnPresent,
      fetchInt_of_castInt_error fails]
    rfl

end Eval

/-! ## Indices -/

/-- What succeeds as a whole succeeds at first. -/
theorem exists_ok_of_bind
    {α β : Type}
    {first : Except Error α}
    {next : α → Except Error β}
    {result : β}
    (succeeds : (first >>= next) = .ok result) :
    ∃ value, first = .ok value ∧ next value = .ok result := by
  cases first with
  | error e => cases succeeds
  | ok value => exact ⟨value, rfl, succeeds⟩

namespace Expr

open Dialogue Value

variable {resolver : Resolver} {tree : Expr} {value : Value}

/-- An index comes first as a value, and then as the integer that it counts as. -/
theorem run_indices_cons
    (first : Expr)
    (rest : List Expr) :
    (evaluateIndices (first :: rest)).run resolver = (do
      let n ← (← first.evaluate.run resolver).fetchInt
      return n :: (← (evaluateIndices rest).run resolver)) := by
  rw [evaluateIndices, run_bind]
  cases first.evaluate.run resolver with
  | error e => rfl
  | ok value =>
      show (liftM value.fetchInt >>= fun n =>
        return n :: (← evaluateIndices rest) : Dialogue _).run resolver = _
      rw [run_bind]
      show (value.fetchInt >>= _) = (value.fetchInt >>= _)
      cases value.fetchInt with
      | error e => rfl
      | ok n =>
          show (evaluateIndices rest >>= fun ns => return n :: ns : Dialogue _).run
            resolver = _
          rw [run_bind]
          rfl

/-- Indices that count as the same integer cannot be told apart. -/
theorem run_indices_congr
    {tree' : Expr}
    {value' : Value}
    (computed : tree.evaluate.run resolver = .ok value)
    (computed' : tree'.evaluate.run resolver = .ok value')
    (sameInt : value.fetchInt = value'.fetchInt)
    (before after : List Expr) :
    (evaluateIndices (before ++ tree :: after)).run resolver =
      (evaluateIndices (before ++ tree' :: after)).run resolver := by
  induction before with
  | nil =>
      rw [List.nil_append, List.nil_append, run_indices_cons, run_indices_cons,
        computed, computed']
      show (value.fetchInt >>= _) = (value'.fetchInt >>= _)
      rw [sameInt]
  | cons first before ih =>
      rw [List.cons_append, List.cons_append, run_indices_cons, run_indices_cons,
        ih]

/-- The first index that counts as no integer ends the evaluation with its
error. -/
theorem run_indices_of_error
    {before : List Expr}
    {ns : List Int64}
    (isFirst : (evaluateIndices before).run resolver = .ok ns)
    (computed : tree.evaluate.run resolver = .ok value)
    {e : Error}
    (fails : value.fetchInt = .error e)
    (after : List Expr) :
    (evaluateIndices (before ++ tree :: after)).run resolver = .error e := by
  -- The indices in front are integers, so that each of
  -- them hands on to the next one.
  induction before generalizing ns with
  | nil =>
      rw [List.nil_append, run_indices_cons, computed]
      show (value.fetchInt >>= _) = _
      rw [fails]
      rfl
  | cons first before ih =>
      rw [run_indices_cons] at isFirst
      rw [List.cons_append, run_indices_cons]
      rcases exists_ok_of_bind isFirst with ⟨firstValue, isValue, isFirst⟩
      rcases exists_ok_of_bind isFirst with ⟨n, isInt, isFirst⟩
      rcases exists_ok_of_bind isFirst with ⟨ns', isRest, -⟩
      rw [ih isRest, isValue]
      show (firstValue.fetchInt >>= _) = _
      rw [isInt]
      rfl

/-- Variables, and whether they exist, are asked for by the integers of their
indices. -/
theorem run_lookup_congr
    {indices indices' : List Expr}
    (same : (evaluateIndices indices).run resolver =
      (evaluateIndices indices').run resolver)
    (name : String) :
    (var name indices).evaluate.run resolver =
        (var name indices').evaluate.run resolver ∧
      (unary .defined (var name indices)).evaluate.run resolver =
        (unary .defined (var name indices')).evaluate.run resolver := by
  constructor
  all_goals rw [evaluate, evaluate, run_bind, run_bind, same]

theorem run_lookup_of_error
    {indices : List Expr}
    {e : Error}
    (fails : (evaluateIndices indices).run resolver = .error e)
    (name : String) :
    (var name indices).evaluate.run resolver = .error e ∧
      (unary .defined (var name indices)).evaluate.run resolver = .error e := by
  constructor
  all_goals
    rw [evaluate, run_bind, fails]
    rfl

end Expr

/-! ## Integers and what is no integer -/

namespace Value

/-- Wherever an integer is needed, the value serves as the given one. -/
structure ServesAs (value : Value) (n : Int64) : Prop where
  cast : value.castInt = .ok (.int n)
  fetch : value.fetchInt = .ok n
  left {op : Op} (onInts : op.computesOnInts) (other : Value) :
    Eval.binary op value other = Eval.binary op (.int n) other
  right {op : Op} (onInts : op.computesOnInts) (other : Value) :
    Eval.binary op other value = Eval.binary op other (.int n)
  count (text : Value) :
    Eval.binary .replicate text value = Eval.binary .replicate text (.int n)
  alone {op : Op} (onInt : op = .toInt ∨ op = .bitNot) :
    Eval.unary op value = Eval.unary op (.int n)
  indices {resolver : Resolver} {tree : Expr}
      (computed : tree.evaluate.run resolver = .ok value)
      (name : String) (before after : List Expr) :
    (Expr.var name (before ++ tree :: after)).evaluate.run resolver =
        (Expr.var name
          (before ++ .literal (.int n) :: after)).evaluate.run resolver ∧
      (Expr.unary .defined
          (.var name (before ++ tree :: after))).evaluate.run resolver =
        (Expr.unary .defined
          (.var name (before ++ .literal (.int n) :: after))).evaluate.run resolver

/-- Wherever an integer is needed, the value ends the evaluation with the error,
unless something else ends it before, or an empty operand decides. -/
structure Refuses (value : Value) (e : Error) : Prop where
  cast : value.castInt = .error e
  fetch : value.fetchInt = .error e
  left {op : Op} (onInts : op.computesOnInts) {other : Value}
      (present : other.isEmpty = false) :
    Eval.binary op value other = .error e
  right {op : Op} (onInts : op.computesOnInts) {other : Value} {m : Int64}
      (isInt : other.fetchInt = .ok m) :
    Eval.binary op other value = .error e
  count (text : Value) :
    Eval.binary .replicate text value = .error e
  alone {op : Op} (onInt : op = .toInt ∨ op = .bitNot) :
    Eval.unary op value = .error e
  indices {resolver : Resolver} {tree : Expr}
      (computed : tree.evaluate.run resolver = .ok value)
      (name : String) {before : List Expr} {ns : List Int64}
      (isFirst : (Expr.evaluateIndices before).run resolver = .ok ns)
      (after : List Expr) :
    (Expr.var name (before ++ tree :: after)).evaluate.run resolver = .error e ∧
      (Expr.unary .defined
          (.var name (before ++ tree :: after))).evaluate.run resolver = .error e

/-- What is converted to an integer serves as this integer. -/
theorem servesAs_of_castInt
    {value : Value}
    {n : Int64}
    (isInt : value.castInt = .ok (int n)) :
    value.ServesAs n := by
  have same : SameInt value (int n) := by
    cases value with
    | absent | null => cases isInt
    | _ => exact ⟨rfl, rfl, isInt⟩
  exact {
    cast := isInt
    fetch := same.fetchInt_eq
    left :=
      fun onInts other => Eval.binary_congr_of_sameInt same (.refl other) onInts
    right :=
      fun onInts other => Eval.binary_congr_of_sameInt (.refl other) same onInts
    count := fun text => Eval.replicate_congr text same
    alone := fun onInt => Eval.unary_congr_of_sameInt same onInt
    indices := fun computed name before after =>
      Expr.run_lookup_congr
        (Expr.run_indices_congr computed rfl same.fetchInt_eq before after) name }

/-- What is not converted to an integer is refused with the error of the
conversion. -/
theorem refuses_of_castInt
    {value : Value}
    {e : Error}
    (fails : value.castInt = .error e) :
    value.Refuses e := by
  have present := isEmpty_of_castInt_error fails
  have fails' := fetchInt_of_castInt_error fails
  exact {
    cast := fails
    fetch := fails'
    left := fun onInts _ present' =>
      Eval.binary_of_left_error present present' onInts fails'
    right := fun onInts _ _ isInt =>
      Eval.binary_of_right_error onInts present isInt fails'
    count := fun text => Eval.replicate_of_count_error text present fails'
    alone := Eval.unary_of_castInt_error fails
    indices := fun computed name _ _ isFirst after =>
      Expr.run_lookup_of_error
        (Expr.run_indices_of_error isFirst computed fails' after) name }

end Value

end Formula
