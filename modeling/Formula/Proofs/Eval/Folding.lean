import Formula.Eval.Builtin
import Formula.Eval.Evaluate
import Mathlib.Data.List.Forall2

/-!
# Folding computed subtrees

A subtree that is evaluated to a value may as well be a literal of that value,
wherever it stands.  What has to be the same for this is the outcome of the
subtree, and its outcome under a test for existence, which looks at the form of
its operand before it evaluates it.  Every node passes both on from each of its
children, and so does a whole tree from any place in it.
-/

namespace Formula.Expr

open Dialogue

/-! ## Places in a tree -/

/-- A way from a node to one of its children.  Indices and arguments are counted
from zero. -/
inductive Branch where
  | item (position : Nat)
  | condition
  | left
  | right
  deriving DecidableEq, Repr

/-- The child at the end of a branch. -/
def child? : Expr → Branch → Option Expr
  | var _ indices, .item position => indices[position]?
  | call _ arguments, .item position => arguments[position]?
  | apply _ condition _ _, .condition => condition
  | apply _ _ left _, .left => some left
  | apply _ _ _ right, .right => right
  | _, _ => none

/-- The node with another child at the end of a branch, if there is one. -/
def setChild : Expr → Branch → Expr → Expr
  | var name indices, .item position, new => var name (indices.set position new)
  | call name arguments, .item position, new =>
    call name (arguments.set position new)
  | apply op condition left right, .condition, new =>
    apply op (condition.map fun _ => new) left right
  | apply op condition _ right, .left, new => apply op condition new right
  | apply op condition left right, .right, new =>
    apply op condition left (right.map fun _ => new)
  | expr, _, _ => expr

/-- The subtree at the end of a path. -/
def at? : Expr → List Branch → Option Expr
  | expr, [] => some expr
  | expr, branch :: path => (expr.child? branch).bind (·.at? path)

/-- The tree with another subtree at the end of a path. -/
def replaceAt : Expr → List Branch → Expr → Expr
  | _, [], new => new
  | expr, branch :: path, new =>
    match expr.child? branch with
    | some child => expr.setChild branch (child.replaceAt path new)
    | none => expr

section

variable {expr child : Expr} {branch : Branch}

theorem child?_setChild
    (found : expr.child? branch = some child)
    (new : Expr) :
    (expr.setChild branch new).child? branch = some new := by
  cases expr <;> cases branch <;> simp_all [child?, setChild]
  all_goals
    have within := (List.getElem?_eq_some_iff.mp found).1
    exact List.getElem?_set_self within

theorem setChild_self (found : expr.child? branch = some child) :
    expr.setChild branch child = expr := by
  cases expr <;> cases branch <;> simp_all [child?, setChild]
  all_goals
    rcases List.getElem?_eq_some_iff.mp found with ⟨within, rfl⟩
    exact List.set_getElem_self within

theorem setChild_setChild
    (expr : Expr)
    (branch : Branch)
    (first second : Expr) :
    (expr.setChild branch first).setChild branch second =
      expr.setChild branch second := by
  cases expr <;> cases branch <;> simp [setChild, Function.comp_def]

end

/-- What is put at the end of a path is found there. -/
theorem at?_replaceAt
    {path : List Branch}
    {expr subtree : Expr}
    (found : expr.at? path = some subtree)
    (new : Expr) :
    (expr.replaceAt path new).at? path = some new := by
  induction path generalizing expr with
  | nil => rfl
  | cons branch path ih =>
      rcases Option.bind_eq_some_iff.mp found with ⟨child, isChild, found⟩
      rw [replaceAt, isChild]
      show ((expr.setChild branch _).child? branch).bind _ = _
      rw [child?_setChild isChild]
      exact ih found

/-- What is put at the end of a path gives way to what is put there later. -/
theorem replaceAt_replaceAt
    {path : List Branch}
    {expr subtree : Expr}
    (found : expr.at? path = some subtree)
    (first second : Expr) :
    (expr.replaceAt path first).replaceAt path second =
      expr.replaceAt path second := by
  induction path generalizing expr with
  | nil => rfl
  | cons branch path ih =>
      rcases Option.bind_eq_some_iff.mp found with ⟨child, isChild, found⟩
      simp only [replaceAt, isChild, child?_setChild isChild, ih found,
        setChild_setChild]

/-- Nothing changes if the subtree at the end of a path is put there again. -/
theorem replaceAt_self
    {path : List Branch}
    {expr subtree : Expr}
    (found : expr.at? path = some subtree) :
    expr.replaceAt path subtree = expr := by
  induction path generalizing expr with
  | nil => exact (Option.some.inj found).symm
  | cons branch path ih =>
      rcases Option.bind_eq_some_iff.mp found with ⟨child, isChild, found⟩
      rw [replaceAt, isChild]
      show expr.setChild branch (child.replaceAt path subtree) = expr
      rw [ih found]
      exact setChild_self isChild

/-! ## Operators and their operands -/

section

variable {op : Op} {condition : Option Expr} {operand left right : Expr}

/-- Whether a tree is a variable. -/
def isVar : Expr → Bool
  | var _ _ => true
  | _ => false

theorem evaluate_defined_var
    (condition : Option Expr)
    (name : String)
    (indices : List Expr) :
    (apply .defined condition (var name indices) none).evaluate =
      (do ask (.lookup name (← evaluateIndices indices)) fun answer =>
            pure (.bool (exists? answer))) := by
  rw [evaluate]

theorem evaluate_defined (notVar : operand.isVar = false) :
    (apply .defined condition operand none).evaluate =
      (do return .bool !(← operand.evaluate).isAbsent) := by
  rw [evaluate]
  rintro name indices rfl
  cases notVar

theorem evaluate_unary (notDefined : op ≠ .defined) :
    (apply op condition operand none).evaluate =
      (do Eval.unary op (← operand.evaluate)) := by
  rw [evaluate]
  · intro _ _ isDefined
    exact absurd isDefined notDefined
  · exact notDefined

theorem evaluate_binary
    (notConditional : op = .conditional → condition = none)
    (notAnd : op ≠ .and)
    (notOr : op ≠ .or) :
    (apply op condition left (some right)).evaluate =
      (do
        let left ← left.evaluate
        Eval.binary op left (← right.evaluate)) := by
  rw [evaluate]
  · rintro test rfl isTest
    cases (notConditional rfl).symm.trans isTest
  · exact notAnd
  · exact notOr

end

/-! ## Trees that can stand for one another -/

/-- Two trees have the same outcome with a host, by themselves and under a test
for existence. -/
structure Interchangeable (resolver : Resolver) (old new : Expr) : Prop where
  value : old.evaluate.run resolver = new.evaluate.run resolver
  existence : ∀ condition condition' : Option Expr,
    (apply .defined condition old none).evaluate.run resolver =
      (apply .defined condition' new none).evaluate.run resolver

namespace Interchangeable

variable {resolver : Resolver}

/-- Unless there is a variable, what is tested is the value. -/
theorem of_value
    {old new : Expr}
    (notVar : old.isVar = false)
    (notVar' : new.isVar = false)
    (value : old.evaluate.run resolver = new.evaluate.run resolver) :
    Interchangeable resolver old new where
  value := value
  existence condition condition' := by
    rw [evaluate_defined notVar, evaluate_defined notVar', run_bind, run_bind,
      value]

/-- Variables with the same indices are the same question. -/
theorem of_indices
    {indices indices' : List Expr}
    (name : String)
    (same : (evaluateIndices indices).run resolver =
      (evaluateIndices indices').run resolver) :
    Interchangeable resolver (var name indices) (var name indices') where
  value := by
    rw [evaluate, evaluate, run_bind, run_bind, same]
  existence condition condition' := by
    rw [evaluate_defined_var, evaluate_defined_var, run_bind, run_bind, same]

theorem refl (expr : Expr) : Interchangeable resolver expr expr := by
  cases expr with
  | var name indices =>
      exact of_indices name rfl
  | literal _ => exact of_value rfl rfl rfl
  | call _ _ => exact of_value rfl rfl rfl
  | apply _ _ _ _ => exact of_value rfl rfl rfl

theorem symm
    {old new : Expr}
    (same : Interchangeable resolver old new) :
    Interchangeable resolver new old where
  value := same.value.symm
  existence condition condition' := (same.existence condition' condition).symm

/-- A tree with a value can stand for a literal of that value, and a literal
for the tree.  If it is a variable, its value was answered, so that a test
for existence finds the same. -/
theorem literal_of_run
    {expr : Expr}
    {value : Value}
    (computed : expr.evaluate.run resolver = .ok value) :
    Interchangeable resolver expr (literal value) where
  value := computed
  existence condition condition' := by
    have literalExists :
        (apply .defined condition' (literal value) none).evaluate.run resolver =
          .ok (.bool !value.isAbsent) := by
      rw [evaluate_defined rfl, run_bind]
      rfl
    rw [literalExists]
    cases kind : expr.isVar with
    | false =>
        rw [evaluate_defined kind, run_bind, computed]
        rfl
    | true =>
        cases expr with
        | var name indices =>
            rw [evaluate, run_bind] at computed
            rw [evaluate_defined_var, run_bind]
            rcases found : (evaluateIndices indices).run resolver with e | ns
            · rw [found] at computed
              cases computed
            · rw [found] at computed
              have answered : resolver.answer (.lookup name ns) = .ok value :=
                computed
              show Except.ok
                (Value.bool (exists? (resolver.answer (.lookup name ns)))) = _
              rw [answered, exists?]
        | _ => cases kind

/-! ## Nodes -/

theorem run_evaluateIndices
    {indices indices' : List Expr}
    (same : List.Forall₂ (Interchangeable resolver) indices indices') :
    (evaluateIndices indices).run resolver =
      (evaluateIndices indices').run resolver := by
  induction same with
  | nil => rfl
  | cons first _ ih =>
      simp only [evaluateIndices, run_bind, first.value, ih]

theorem run_evaluateArguments
    {arguments arguments' : List Expr}
    (same : List.Forall₂ (Interchangeable resolver) arguments arguments') :
    (evaluateArguments arguments).run resolver =
      (evaluateArguments arguments').run resolver := by
  induction same with
  | nil => rfl
  | cons first _ ih =>
      simp only [evaluateArguments, run_bind, first.value, ih]

/-- What decides which operand is evaluated is the outcome of another one. -/
theorem run_apply
    (op : Op)
    {condition condition' : Option Expr}
    {left left' right right' : Expr}
    (sameCondition : Option.Rel (Interchangeable resolver) condition condition')
    (sameLeft : Interchangeable resolver left left')
    (sameRight : Interchangeable resolver right right') :
    (Expr.apply op condition left (some right)).evaluate.run resolver =
      (Expr.apply op condition' left' (some right')).evaluate.run resolver := by
  have operands
      (notConditional : op = .conditional → condition = none ∧ condition' = none)
      (notAnd : op ≠ .and)
      (notOr : op ≠ .or) :
      (Expr.apply op condition left (some right)).evaluate.run resolver =
        (Expr.apply op condition' left' (some right')).evaluate.run resolver := by
    rw [evaluate_binary (fun same => (notConditional same).1) notAnd notOr,
      evaluate_binary (fun same => (notConditional same).2) notAnd notOr]
    simp only [run_bind, sameLeft.value, sameRight.value]
  cases op with
  | conditional =>
      cases sameCondition with
      | none => exact operands (fun _ => ⟨rfl, rfl⟩) (by rintro ⟨⟩) (by rintro ⟨⟩)
      | some sameTest =>
          simp only [evaluate, run_bind, apply_ite (run resolver), sameTest.value,
            sameLeft.value, sameRight.value]
  | and =>
      simp only [evaluate, run_bind, apply_ite (run resolver), sameLeft.value,
        sameRight.value]
  | or =>
      simp only [evaluate, run_bind, apply_ite (run resolver), sameLeft.value,
        sameRight.value]
  | _ => exact operands (by rintro ⟨⟩) (by rintro ⟨⟩) (by rintro ⟨⟩)

/-- An operator does not tell its operands from others with the same outcomes. -/
theorem apply
    (op : Op)
    {condition condition' right right' : Option Expr}
    {left left' : Expr}
    (sameCondition : Option.Rel (Interchangeable resolver) condition condition')
    (sameLeft : Interchangeable resolver left left')
    (sameRight : Option.Rel (Interchangeable resolver) right right') :
    Interchangeable resolver (apply op condition left right)
      (apply op condition' left' right') := by
  apply of_value rfl rfl
  cases sameRight with
  | none =>
      by_cases isDefined : op = .defined
      case pos =>
        subst isDefined
        exact sameLeft.existence condition condition'
      case neg =>
        rw [evaluate_unary isDefined, evaluate_unary isDefined, run_bind, run_bind,
          sameLeft.value]
  | some sameRight =>
      exact run_apply op sameCondition sameLeft sameRight

/-- A list with one member that stands for another one. -/
theorem forall₂_set
    {exprs : List Expr}
    {position : Nat}
    {old new : Expr}
    (found : exprs[position]? = some old)
    (same : Interchangeable resolver old new) :
    List.Forall₂ (Interchangeable resolver) exprs (exprs.set position new) := by
  induction exprs generalizing position with
  | nil => cases found
  | cons first rest ih =>
      cases position with
      | zero =>
          obtain rfl := Option.some.inj found
          exact .cons same (List.forall₂_same.mpr fun expr _ => refl expr)
      | succ position => exact .cons (refl first) (ih found)

theorem option_refl (expr? : Option Expr) :
    Option.Rel (Interchangeable resolver) expr? expr? := by
  cases expr? with
  | none => exact .none
  | some expr => exact .some (refl expr)

theorem option_map
    {expr? : Option Expr}
    {old new : Expr}
    (found : expr? = some old)
    (same : Interchangeable resolver old new) :
    Option.Rel (Interchangeable resolver) expr? (expr?.map fun _ => new) := by
  subst found
  exact .some same

/-- A node passes on that its children can stand for one another. -/
theorem setChild
    {expr old new : Expr}
    {branch : Branch}
    (found : expr.child? branch = some old)
    (same : Interchangeable resolver old new) :
    Interchangeable resolver expr (expr.setChild branch new) := by
  cases expr with
  | literal value => cases found
  | var name indices =>
      cases branch with
      | item position =>
          apply of_indices name
          apply run_evaluateIndices
          exact forall₂_set found same
      | _ => cases found
  | call name arguments =>
      cases branch with
      | item position =>
          apply of_value rfl rfl
          rw [Expr.setChild, evaluate, evaluate, run_bind, run_bind,
            run_evaluateArguments (forall₂_set found same)]
      | _ => cases found
  | apply op condition left right =>
      cases branch with
      | item position => cases found
      | condition =>
          exact apply op (option_map found same) (refl left) (option_refl right)
      | left =>
          obtain rfl := Option.some.inj found
          exact apply op (option_refl condition) same (option_refl right)
      | right =>
          exact apply op (option_refl condition) (refl left)
            (option_map found same)

/-- So does a whole tree, from any place in it.  The induction is on the path to
the place. -/
theorem replaceAt
    {path : List Branch}
    {expr old new : Expr}
    (found : expr.at? path = some old)
    (same : Interchangeable resolver old new) :
    Interchangeable resolver expr (expr.replaceAt path new) := by
  induction path generalizing expr with
  | nil =>
      obtain rfl := Option.some.inj found
      exact same
  | cons branch path ih =>
      rcases Option.bind_eq_some_iff.mp found with ⟨child, isChild, found⟩
      rw [Expr.replaceAt, isChild]
      exact setChild isChild (ih found)

end Interchangeable

/-- A subtree that comes to a value with a host can be replaced by a literal
of that value: the outcome of the whole tree stays the same, be it a value
or an error, wherever the subtree stands.  The tree with the literal is the
tree with nothing else changed. -/
theorem run_replaceAt_literal
    (resolver : Resolver)
    {expr subtree : Expr}
    {path : List Branch}
    {value : Value}
    (found : expr.at? path = some subtree)
    (computed : subtree.evaluate.run resolver = .ok value) :
    (expr.replaceAt path (literal value)).evaluate.run resolver =
        expr.evaluate.run resolver ∧
      (expr.replaceAt path (literal value)).at? path = some (literal value) ∧
      (expr.replaceAt path (literal value)).replaceAt path subtree = expr := by
  have same := (Interchangeable.literal_of_run computed).replaceAt found
  constructor
  · exact same.value.symm
  constructor
  · exact at?_replaceAt found _
  · rw [replaceAt_replaceAt found]
    exact replaceAt_self found

/-- In `ex :b ? :a[1 + 1] : undef` the variable that is tested for existence
becomes a literal. -/
theorem run_replaceAt_literal_of_existence :
    ∃ expr : Expr,
      expr = .conditional (.unary .defined (.var "b" []))
        (.var "a" [.binary .add (.literal (.int 1)) (.literal (.int 1))])
        (.literal .absent) ∧
      expr.at? [.condition, .left] = some (.var "b" []) ∧
      (Expr.var "b" []).evaluate.run .builtin = .ok .null ∧
      (expr.replaceAt [.condition, .left] (literal .null)).evaluate.run .builtin =
        expr.evaluate.run .builtin ∧
      (expr.replaceAt [.condition, .left] (literal .null)).at?
        [.condition, .left] =
          some (literal .null) ∧
      (expr.replaceAt [.condition, .left] (literal .null)).replaceAt
        [.condition, .left] (.var "b" []) = expr := by
  have found : (Expr.conditional (.unary .defined (.var "b" []))
      (.var "a" [.binary .add (.literal (.int 1)) (.literal (.int 1))])
      (.literal .absent)).at? [.condition, .left] = some (.var "b" []) := rfl
  have computed : (Expr.var "b" []).evaluate.run .builtin = .ok .null := rfl
  exact ⟨_, rfl, found, computed, run_replaceAt_literal .builtin found computed⟩

end Formula.Expr
