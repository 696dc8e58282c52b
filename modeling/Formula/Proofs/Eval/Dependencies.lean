import Formula.Proofs.Eval.Questions
import Formula.Proofs.RoundTrip.Trees
import Formula.Proofs.Store.IndexedNames

/-!
# What an expression depends on

The names that an expression lists as its dependencies are the only variables
that it reads from a host.  A store composes the names of indexed variables from
a name and integers, so that a stored name can be read without being listed: it
is not read if it is neither listed nor composed from a listed name.
-/

namespace Formula.Expression

open Dialogue Formula.Expr

/-! ## Two hosts -/

/-- Hosts that answer calls alike, and alike for the variables that an expression
depends on, evaluate it alike, whether it is the first member, any member or
all. -/
theorem evaluate_eq_of_dependencies
    (expression : Expression)
    {first second : Resolver}
    (sameCalls :
      ∀ name arguments, first.call name arguments = second.call name arguments)
    (sameLookups : ∀ name ∈ expression.dependencies, ∀ indices,
      first.lookup name indices = second.lookup name indices) :
    expression.evaluate.run first = expression.evaluate.run second ∧
      (∀ position,
        (expression.evaluateAt position).run first =
          (expression.evaluateAt position).run second) ∧
      expression.evaluateAll.run first = expression.evaluateAll.run second := by
  have alike : ∀ question, Question.Among expression.references question →
      first.answer question = second.answer question := by
    intro question isAmong
    cases question with
    | lookup name indices =>
        have listed : name ∈ expression.dependencies :=
          (expression.mem_dependencies_iff name).mpr ⟨_, isAmong⟩
        exact sameLookups name listed indices
    | call name arguments => exact sameCalls name arguments
  refine ⟨?_, ?_, ?_⟩
  · exact (expression.evaluateAt_within 0).run_eq alike
  · intro position
    exact (expression.evaluateAt_within position).run_eq alike
  · exact expression.evaluateAll_within.run_eq alike

/-- A variable that is not among those of
`ex :a ? :a[:i] : :f(:c)` makes no difference. -/
theorem evaluate_eq_of_other_variable :
    ∃ (expression : Expression) (first second : Resolver),
      expression.exprs = [.conditional (.unary .defined (.var "a" []))
        (.var "a" [.var "i" []]) (.call "f" [.var "c" []])] ∧
      first.lookup "b" [] ≠ second.lookup "b" [] ∧
      (∀ name arguments, first.call name arguments = second.call name arguments) ∧
      (∀ name ∈ expression.dependencies, ∀ indices,
        first.lookup name indices = second.lookup name indices) ∧
      expression.evaluate.run first = expression.evaluate.run second ∧
      (∀ position,
        (expression.evaluateAt position).run first =
          (expression.evaluateAt position).run second) ∧
      expression.evaluateAll.run first = expression.evaluateAll.run second := by
  let expression : Expression := ⟨[.conditional (.unary .defined (.var "a" []))
    (.var "a" [.var "i" []]) (.call "f" [.var "c" []])]⟩
  let second : Resolver :=
    { Resolver.builtin with
      lookup := fun name _ => if name = "b" then .ok (.int 7) else .ok .null }
  have sameLookups : ∀ name ∈ expression.dependencies, ∀ indices,
      Resolver.builtin.lookup name indices = second.lookup name indices := by
    intro name isListed indices
    have other : name ≠ "b" := by
      rintro rfl
      exact absurd isListed (by decide)
    exact (if_neg other).symm
  exact ⟨expression, .builtin, second, rfl, nofun, fun _ _ => rfl, sameLookups,
    expression.evaluate_eq_of_dependencies (fun _ _ => rfl) sameLookups⟩

end Formula.Expression

/-! ## Stores -/

namespace Formula

/-- What is asked is not stored under the given name. -/
def Question.Avoids (name : String) : Question → Prop
  | lookup asked indices => indexedName asked indices ≠ name
  | call _ _ => True

end Formula

namespace Formula.Variables

variable {name : String}

/-- Stores with the same host behind them answer alike for every variable that is
stored under a name where they are the same. -/
theorem answer_eq_of_get?_eq
    {first second : Variables}
    (sameParent : first.parent = second.parent)
    (sameEntries : ∀ other, other ≠ name → first.get? other = second.get? other)
    {question : Question}
    (avoids : question.Avoids name) :
    first.resolver.answer question = second.resolver.answer question := by
  cases question with
  | lookup asked indices =>
      have sameEntry : first.get? (indexedName asked indices) =
          second.get? (indexedName asked indices) :=
        sameEntries _ avoids
      simp only [Resolver.answer, resolver, sameEntry, sameParent]
  | call called arguments => simp only [Resolver.answer, resolver, sameParent]

end Formula.Variables

namespace Formula

namespace Expression

/-- A variable that is neither listed nor composed from a listed one is not read,
so that setting or removing it changes no value of the expression. -/
theorem evaluateAll_of_set_unset
    (expression : Expression)
    (scope : Variables)
    {name : String}
    (value : Value)
    (unlisted : expression.depends name = false)
    (uncomposed : ∀ reference ∈ expression.references, ∀ indices, indices ≠ [] →
      indices.length = reference.2 → indexedName reference.1 indices ≠ name) :
    expression.evaluateAll.run (scope.set name value).2.resolver =
        expression.evaluateAll.run scope.resolver ∧
      expression.evaluateAll.run (scope.unset name).2.resolver =
        expression.evaluateAll.run scope.resolver := by
  have avoids : ∀ question, Question.Among expression.references question →
      question.Avoids name := by
    intro question isAmong
    cases question with
    | call called arguments => trivial
    | lookup asked indices =>
        cases indices with
        | nil =>
            rintro rfl
            have listed : asked ∈ expression.dependencies :=
              (expression.mem_dependencies_iff asked).mpr ⟨_, isAmong⟩
            exact of_decide_eq_false unlisted listed
        | cons index rest =>
            exact uncomposed _ isAmong _ (List.cons_ne_nil _ _) rfl
  have sameParent : (scope.set name value).2.parent = scope.parent := rfl
  have sameParent' : (scope.unset name).2.parent = scope.parent := rfl
  constructor
  · exact expression.evaluateAll_within.run_eq fun question isAmong =>
      Variables.answer_eq_of_get?_eq sameParent
        (fun _ => scope.get?_set_of_ne value) (avoids question isAmong)
  · exact expression.evaluateAll_within.run_eq fun question isAmong =>
      Variables.answer_eq_of_get?_eq sameParent' (fun _ => scope.get?_unset_of_ne)
        (avoids question isAmong)

theorem evaluateAll_of_set_unset_other :
    ∃ (expression : Expression) (scope : Variables),
      expression.exprs = [.binary .add (.var "x" [.var "i" []]) (.var "y" [])] ∧
      expression.depends "y_1" = false ∧
      (∀ reference ∈ expression.references, ∀ indices, indices ≠ [] →
        indices.length = reference.2 → indexedName reference.1 indices ≠ "y_1") ∧
      expression.evaluateAll.run (scope.set "y_1" (.int 7)).2.resolver =
        expression.evaluateAll.run scope.resolver ∧
      expression.evaluateAll.run (scope.unset "y_1").2.resolver =
        expression.evaluateAll.run scope.resolver := by
  let expression : Expression :=
    ⟨[.binary .add (.var "x" [.var "i" []]) (.var "y" [])]⟩
  let scope : Variables :=
    .ofList [("i", .int 1), ("x_1", .int 2), ("y_1", .int 3)] none
  have unlisted : expression.depends "y_1" = false := by decide
  have uncomposed : ∀ reference ∈ expression.references, ∀ indices, indices ≠ [] →
      indices.length = reference.2 → indexedName reference.1 indices ≠ "y_1" := by
    intro reference isReference indices isIndexed sameLength composed
    have isX : reference = ("x", 1) := by
      have count : reference.2 ≠ 0 := by
        intro none
        exact isIndexed (List.length_eq_zero_iff.mp (sameLength.trans none))
      have members :
          ∀ r ∈ expression.references, r.2 ≠ 0 → r = ("x", 1) := by decide
      exact members reference isReference count
    rcases toList_indexedName reference.1 indices with ⟨tail, starts⟩
    rw [composed, isX] at starts
    cases starts
  exact ⟨expression, scope, rfl, unlisted, uncomposed,
    expression.evaluateAll_of_set_unset scope (.int 7) unlisted uncomposed⟩

/-- The expression `:x[1]` reads the variable that is stored as
`x_1`, and does not list it. -/
theorem evaluateAll_of_set_composed :
    ∃ expression : Expression,
      parse ":x[1]" true = .ok expression ∧
      expression.depends "x_1" = false ∧
      expression.evaluateAll.run ({} : Variables).resolver = .ok [.null] ∧
      expression.evaluateAll.run (({} : Variables).set "x_1" (.int 7)).2.resolver =
        .ok [.int 7] := by
  have isName : Text.IsName "x" := ⟨'x', [], rfl, rfl, nofun⟩
  have one : (Expr.literal (.int 1)).WellFormed :=
    .literal (Value.readable_of_ne_float nofun)
  have wellFormed : (Expr.var "x" [.literal (.int 1)]).WellFormed := by
    refine .variable isName ?_
    rw [List.forall_mem_singleton]
    exact one
  have written : (Expr.var "x" [.literal (.int 1)]).written = ":x[1]" := by
    decide +kernel
  refine ⟨_, written ▸ parse_written wellFormed, by decide, by rfl, by rfl⟩

end Expression

end Formula
