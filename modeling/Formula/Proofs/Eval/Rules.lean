import Formula.Eval.Evaluate
import Formula.Proofs.Parse.Trees
import Formula.Proofs.RoundTrip.Trees

/-!
# Every parsed tree has a rule

The evaluator gives up in three places: at an operator that does not take two
operands, at one that does not take a single operand, and at a test for existence
of something that is no variable.  `Expr.evaluateWith` is the evaluator with
anything else done at these places.  On trees of the right shape this makes no
difference, so that none of the three is ever reached.
-/

namespace Formula

/-- What is done where the evaluator has no rule. -/
structure Fallback where
  unary (op : Op) (operand : Value) : Except Error Value
  binary (op : Op) (left right : Value) : Except Error Value
  existing (operand : Dialogue Value) : Dialogue Value

/-- What the evaluator does where it has no rule. -/
def Fallback.standard : Fallback where
  unary op _ := .error (Eval.notApplicable op .unaryOperator)
  binary op _ _ := .error (Eval.notApplicable op .binaryOperator)
  existing operand := do
    return .bool !(← operand).isAbsent

/-! ## Operators -/

namespace Eval

open Value

variable (fallback : Fallback)

/-- The result of an operator on two values, if there is a rule for it. -/
def binaryWith (op : Op) (left right : Value) : Except Error Value :=
  match op with
  | .add | .sub | .mul | .div | .rem | .pow => arithmetic op left right
  | .intAdd | .intSub | .intMul | .intDiv | .intMod =>
    onInts (wordArithmetic op) left right
  | .eq | .ne | .lt | .gt | .le | .ge | .cmp =>
    comparison valueOrdering op left right
  | .intEq | .intNe | .intLt | .intGt | .intLe | .intGe | .intCmp =>
    comparison intOrdering op left right
  | .bitAnd | .bitOr | .bitXor =>
    onInts (fun m n => .ok (wordBits op m n)) left right
  | .xor => do
    let b ← left.truthy
    let c ← right.truthy
    return .bool (b != c)
  | .concat => .ok (.str (left.text ++ right.text))
  | .replicate => replicate left right
  | _ => fallback.binary op left right

/-- The result of an operator on a value that is not empty, if there is a rule for
it. -/
def unaryOnPresentWith (op : Op) (operand : Value) : Except Error Value :=
  match op with
  | .plus => operand.castNumeric
  | .minus => negate operand
  | .bitNot => return .int (~~~(← operand.fetchInt))
  | .positive => return .bool ((0 : Float) < (← operand.fetchFloat))
  | .negative => return .bool ((← operand.fetchFloat) < 0)
  | .decibel => return .float ((10 : Float).pow ((← operand.fetchFloat) / 20))
  | .length => .ok (.int (.ofNat operand.text.length))
  | .reverse => .ok (.str (String.ofList operand.text.toList.reverse))
  | .upper => .ok (.str (Text.uppercase operand.text))
  | .lower => .ok (.str (Text.lowercase operand.text))
  | _ => fallback.unary op operand

/-- The result of an operator on one value, if there is a rule for it. -/
def unaryWith (op : Op) (operand : Value) : Except Error Value :=
  match op with
  | .not => return .bool !(← operand.truthy)
  | .toInt => operand.castInt
  | .toFloat => operand.castFloat
  | .toBool => operand.castBool
  | .toText => .ok operand.castText
  | _ =>
    if operand.isEmpty then .ok operand else unaryOnPresentWith fallback op operand

theorem binaryWith_standard (op : Op) : binaryWith .standard op = binary op := by
  cases op <;> rfl

theorem unaryWith_standard (op : Op) : unaryWith .standard op = unary op := by
  cases op <;> rfl

/-- There is a rule for every operator that stands between two operands, but for
those that do not always evaluate both. -/
theorem binaryWith_of_form
    {op : Op}
    (form : op.form = .binary)
    (notAnd : op ≠ .and)
    (notOr : op ≠ .or) :
    binaryWith fallback op = binary op := by
  cases op <;>
    first | exact absurd rfl notAnd | exact absurd rfl notOr | rfl | cases form

/-- There is a rule for every operator in front of a single operand. -/
theorem unaryWith_of_form
    {op : Op}
    (form : op.form = .unary) :
    unaryWith fallback op = unary op := by
  cases op <;> first | rfl | cases form

end Eval

/-! ## Trees -/

namespace Expr

open Dialogue

variable (fallback : Fallback)

mutual

/-- The value of an expression, with a fallback where there is no rule. -/
def evaluateWith : Expr → Dialogue Value
  | literal value => pure value
  | var name indices => do
    question (.lookup name (← evaluateIndicesWith indices))
  | call name arguments => do
    question (.call name (← evaluateArgumentsWith arguments))
  | apply .conditional (some condition) left (some right) => do
    if ← (← condition.evaluateWith).truthy then left.evaluateWith
    else right.evaluateWith
  | apply .and _ left (some right) => do
    if ← (← left.evaluateWith).truthy then
      return .bool (← (← right.evaluateWith).truthy)
    else
      return .bool false
  | apply .or _ left (some right) => do
    if ← (← left.evaluateWith).truthy then
      return .bool true
    else
      return .bool (← (← right.evaluateWith).truthy)
  | apply .defined _ (var name indices) none => do
    ask (.lookup name (← evaluateIndicesWith indices)) fun answer =>
      pure (.bool (exists? answer))
  | apply .defined _ operand none => fallback.existing operand.evaluateWith
  | apply op _ operand none => do
    Eval.unaryWith fallback op (← operand.evaluateWith)
  | apply op _ left (some right) => do
    let left ← left.evaluateWith
    Eval.binaryWith fallback op left (← right.evaluateWith)

/-- The integers that the indices of a variable come to. -/
def evaluateIndicesWith : List Expr → Dialogue (List Int64)
  | [] => pure []
  | index :: rest => do
    let n ← (← index.evaluateWith).fetchInt
    return n :: (← evaluateIndicesWith rest)

/-- The values of the arguments of a call. -/
def evaluateArgumentsWith : List Expr → Dialogue (List Value)
  | [] => pure []
  | argument :: rest => do
    let value ← argument.evaluateWith
    return value :: (← evaluateArgumentsWith rest)

end

mutual

/-- With what it does itself where it has no rule, it is the evaluator. -/
theorem evaluateWith_standard
    (t : Expr) :
    t.evaluateWith .standard = t.evaluate := by
  unfold evaluateWith
  split
  case h_1 => rw [evaluate]
  case h_2 name indices => rw [evaluate, evaluateIndicesWith_standard indices]
  case h_3 name arguments =>
      rw [evaluate, evaluateArgumentsWith_standard arguments]
  case h_4 condition left right =>
      rw [evaluate, evaluateWith_standard condition, evaluateWith_standard left,
        evaluateWith_standard right]
  case h_5 condition left right =>
      rw [evaluate, evaluateWith_standard left, evaluateWith_standard right]
  case h_6 condition left right =>
      rw [evaluate, evaluateWith_standard left, evaluateWith_standard right]
  case h_7 condition name indices =>
      rw [evaluate, evaluateIndicesWith_standard indices]
  case h_8 condition operand notVariable =>
      rw [evaluate, evaluateWith_standard operand]
      · rfl
      · exact notVariable
  case h_9 op condition operand _ notDefined =>
      rw [evaluate, evaluateWith_standard operand, Eval.unaryWith_standard]
      all_goals assumption
  case h_10 op condition left right notConditional notAnd notOr =>
      rw [evaluate, evaluateWith_standard left, evaluateWith_standard right,
        Eval.binaryWith_standard]
      all_goals assumption

theorem evaluateIndicesWith_standard (indices : List Expr) :
    evaluateIndicesWith .standard indices = evaluateIndices indices := by
  match indices with
  | [] => rfl
  | index :: rest =>
      rw [evaluateIndicesWith, evaluateIndices, evaluateWith_standard index,
        evaluateIndicesWith_standard rest]

theorem evaluateArgumentsWith_standard (arguments : List Expr) :
    evaluateArgumentsWith .standard arguments = evaluateArguments arguments := by
  match arguments with
  | [] => rfl
  | argument :: rest =>
      rw [evaluateArgumentsWith, evaluateArguments, evaluateWith_standard argument,
        evaluateArgumentsWith_standard rest]

end

variable {fallback}

theorem evaluateIndicesWith_eq
    {indices : List Expr}
    (same : ∀ index ∈ indices, index.evaluateWith fallback = index.evaluate) :
    evaluateIndicesWith fallback indices = evaluateIndices indices := by
  induction indices with
  | nil => rfl
  | cons index rest ih =>
      rw [List.forall_mem_cons] at same
      rw [evaluateIndicesWith, evaluateIndices, same.1, ih same.2]

theorem evaluateArgumentsWith_eq
    {arguments : List Expr}
    (same :
      ∀ argument ∈ arguments, argument.evaluateWith fallback = argument.evaluate) :
    evaluateArgumentsWith fallback arguments = evaluateArguments arguments := by
  induction arguments with
  | nil => rfl
  | cons argument rest ih =>
      rw [List.forall_mem_cons] at same
      rw [evaluateArgumentsWith, evaluateArguments, same.1, ih same.2]

/-- On a tree of the right shape the fallback makes no difference. -/
theorem Shaped.evaluateWith_eq
    {isName : String → Prop}
    {isValue : Value → Prop}
    {t : Expr}
    (shaped : t.Shaped isName isValue) :
    t.evaluateWith fallback = t.evaluate := by
  induction shaped with
  | literal _ => rfl
  | «variable» _ _ ih => rw [evaluateWith, evaluate, evaluateIndicesWith_eq ih]
  | call _ _ ih => rw [evaluateWith, evaluate, evaluateArgumentsWith_eq ih]
  | conditional _ _ _ ihCondition ihYes ihNo =>
      rw [evaluateWith, evaluate, ihCondition, ihYes, ihNo]
  | defined _ _ ih => rw [evaluateWith, evaluate, evaluateIndicesWith_eq ih]
  | @unary op operand form _ ih =>
      have notDefined : op ≠ .defined := by
        rintro rfl
        cases form
      rw [evaluateWith, evaluate, ih, Eval.unaryWith_of_form fallback form]
      all_goals
        first
          | exact notDefined
          | exact fun _ _ isDefined => absurd isDefined notDefined
  | @binary op left right form _ _ ihLeft ihRight =>
      by_cases isAnd : op = .and
      · rw [isAnd, evaluateWith, evaluate, ihLeft, ihRight]
      by_cases isOr : op = .or
      · rw [isOr, evaluateWith, evaluate, ihLeft, ihRight]
      rw [evaluateWith, evaluate, ihLeft, ihRight,
        Eval.binaryWith_of_form fallback form isAnd isOr]
      all_goals first | exact isAnd | exact isOr | exact fun _ _ => nofun

/-- On other trees it may: `!` does not stand between two operands. -/
example :
    (binary .not (literal .null) (literal .null)).evaluateWith fallback =
      done (fallback.binary .not .null .null) :=
  rfl

end Expr

/-- What is written of a well-formed tree is seen as that tree. -/
theorem Step.exists_mem_run_written
    {t : Expr}
    (wellFormed : t.WellFormed) :
    ∃ seen ∈ run [.wholeExpression] (.ofSource (Cursor.ofString t.written)),
      seen.outcome = .ok [t] := by
  have parsed := Parse.wholeExpression_text t.written ▸
    (Grammar.wholeExpression_eq_ok_iff _ _).mpr wellFormed.spells
  exact ⟨_, List.mem_singleton_self _, congrArg (Except.map ([·])) parsed⟩

/-- Every tree that is seen in a run of a tokenizer, over any text and after any
steps, has the right shape, and its evaluation never comes to a place without a
rule. -/
theorem Step.evaluateWith_of_mem_run
    {text : String}
    {steps : List Step}
    {seen : Observation}
    (isSeen : seen ∈ run steps (.ofSource (Cursor.ofString text)))
    {trees : List Expr}
    (parsed : seen.outcome = .ok trees) :
    ∀ t ∈ trees, t.WellShaped ∧
      ∀ fallback, t.evaluateWith fallback = t.evaluate := by
  intro t isMember
  have shaped := wellShaped_of_mem_run_text isSeen parsed t isMember
  exact ⟨shaped, fun fallback => shaped.evaluateWith_eq⟩

theorem Step.evaluateWith_of_mem_run_of_existence :
    ∃ (t : Expr) (seen : Observation),
      t = .conditional (.unary .defined (.var "a" [])) (.binary .and (.var "a" [])
        (.unary .minus (.literal (.float 0.5)))) (.call "f" []) ∧
      t.written = "ex :a ? :a and - 0.5 : :f()" ∧
      seen ∈ run [.wholeExpression] (.ofSource (Cursor.ofString t.written)) ∧
      seen.outcome = .ok [t] ∧
      ∀ t' ∈ [t], t'.WellShaped ∧
      ∀ fallback, t'.evaluateWith fallback = t'.evaluate := by
  have isName : ∀ c, Text.isNameFirst c → Text.IsName (String.ofList [c]) :=
    fun c starts => ⟨c, [], String.toList_ofList, starts, List.forall_mem_nil _⟩
  have half : Expr.WellFormed (.literal (.float 0.5)) :=
    .literal (Value.readable_float (by decide +kernel) (by decide +kernel))
  have wellFormed : Expr.WellFormed (.conditional (.unary .defined (.var "a" []))
      (.binary .and (.var "a" []) (.unary .minus (.literal (.float 0.5))))
      (.call "f" [])) :=
    .conditional (.defined (isName 'a' rfl) (List.forall_mem_nil _))
      (.binary rfl (.variable (isName 'a' rfl) (List.forall_mem_nil _))
        (.sign .minus half))
      (.call (isName 'f' rfl) (List.forall_mem_nil _))
  obtain ⟨seen, isSeen, outcome⟩ := exists_mem_run_written wellFormed
  exact ⟨_, seen, rfl, by decide +kernel, isSeen, outcome,
    evaluateWith_of_mem_run isSeen outcome⟩

end Formula
