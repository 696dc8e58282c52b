import Formula.Expression

/-!
# What an evaluation asks

The questions of a dialogue depend on the answers before them, so that they are
no list but a property of its whole tree: `Dialogue.Within` bounds them for all
answers at once.  The evaluation of an expression asks for calls, and for
variables of the expression with as many indices as they have there.
-/

namespace Formula

namespace Dialogue

variable {α β : Type}
variable {allowed : Question → Prop} {yields : α → Prop}

/-- Whatever the answers are, the dialogue asks only what is allowed, and its
result, if there is one, is as it should be. -/
inductive Within (allowed : Question → Prop) (yields : α → Prop) :
    Dialogue α → Prop where
  | result {result : α} : yields result → Within allowed yields (done (.ok result))
  | error (e : Error) : Within allowed yields (done (.error e))
  | ask {question : Question} {next : Answer → Dialogue α} :
      allowed question → (∀ answer, Within allowed yields (next answer)) →
        Within allowed yields (ask question next)

theorem Within.pure
    {result : α}
    (fits : yields result) :
    Within allowed yields (pure result) :=
  .result fits

/-- An outcome that no host decides asks nothing. -/
theorem Within.lift (outcome : Except Error α) :
    Within allowed (fun _ => True) (liftM outcome : Dialogue α) := by
  cases outcome with
  | ok result => exact .result trivial
  | error e => exact .error e

theorem Within.question
    {asking : Question}
    (isAllowed : allowed asking) :
    Within allowed (fun _ => True) (question asking) :=
  .ask isAllowed Within.lift

theorem Within.bind
    {dialogue : Dialogue α}
    {next : α → Dialogue β}
    {yields' : β → Prop}
    (first : dialogue.Within allowed yields)
    (second : ∀ result, yields result → (next result).Within allowed yields') :
    (dialogue >>= next).Within allowed yields' := by
  induction first with
  | result fits => exact second _ fits
  | error e => exact .error e
  | ask isAllowed _ ih => exact .ask isAllowed ih

/-- Two hosts that agree on what a dialogue may ask lead to the same outcome. -/
theorem Within.run_eq
    {dialogue : Dialogue α}
    {first second : Resolver}
    (within : dialogue.Within allowed yields)
    (alike : ∀ question, allowed question →
      first.answer question = second.answer question) :
    dialogue.run first = dialogue.run second := by
  induction within with
  | result _ => rfl
  | error _ => rfl
  | ask isAllowed _ ih =>
      rw [run, run, alike _ isAllowed]
      exact ih _

end Dialogue

/-! ## The variables of an expression -/

namespace Expr

mutual

/-- The variables in a tree, from left to right, with the numbers of their
indices. -/
def references : Expr → List (String × Nat)
  | literal _ => []
  | var name indices => (name, indices.length) :: referencesOfList indices
  | call _ arguments => referencesOfList arguments
  | apply _ condition left right =>
    referencesOfOption condition ++ left.references ++ referencesOfOption right

/-- The variables in a list of trees. -/
def referencesOfList : List Expr → List (String × Nat)
  | [] => []
  | expr :: rest => expr.references ++ referencesOfList rest

/-- The variables in a tree that may be missing. -/
def referencesOfOption : Option Expr → List (String × Nat)
  | none => []
  | some expr => expr.references

end

mutual

theorem map_references (expr : Expr) :
    expr.references.map Prod.fst = expr.variableNames := by
  match expr with
  | literal _ => rfl
  | var _ indices => simp [references, variableNames, map_referencesOfList indices]
  | call _ arguments =>
      simp [references, variableNames, map_referencesOfList arguments]
  | apply _ condition left right =>
      simp [references, variableNames, map_references left,
        map_referencesOfOption condition, map_referencesOfOption right]

theorem map_referencesOfList (exprs : List Expr) :
    (referencesOfList exprs).map Prod.fst = variableNamesOfList exprs := by
  match exprs with
  | [] => rfl
  | expr :: rest =>
      simp [referencesOfList, variableNamesOfList, map_references expr,
        map_referencesOfList rest]

theorem map_referencesOfOption (expr? : Option Expr) :
    (referencesOfOption expr?).map Prod.fst = variableNamesOfOption expr? := by
  match expr? with
  | none => rfl
  | some expr => exact map_references expr

end

end Expr

/-- Calls, and the given variables with as many indices as given. -/
def Question.Among (references : List (String × Nat)) : Question → Prop
  | lookup name indices => (name, indices.length) ∈ references
  | call _ _ => True

/-! ## The questions of an evaluation -/

namespace Expr

open Dialogue

variable {references : List (String × Nat)}

mutual

/-- The evaluation of a tree asks for the variables of the tree only. -/
theorem evaluate_within
    (expr : Expr)
    (named : expr.references ⊆ references) :
    expr.evaluate.Within (Question.Among references) fun _ => True := by
  unfold evaluate
  split
  case h_1 => exact .pure trivial
  case h_2 name indices =>
      simp only [Expr.references, List.cons_subset] at named
      refine (evaluateIndices_within indices named.2).bind fun ns sameLength =>
        .question ?_
      simpa only [Question.Among, sameLength] using named.1
  case h_3 name arguments =>
      exact (evaluateArguments_within arguments named).bind fun _ _ =>
        .question trivial
  case h_4 condition left right =>
      simp only [Expr.references, referencesOfOption, List.append_subset] at named
      refine (evaluate_within condition named.1.1).bind fun _ _ =>
        (Within.lift _).bind ?_
      intro isTrue _
      cases isTrue with
      | false => exact evaluate_within right named.2
      | true => exact evaluate_within left named.1.2
  case h_5 condition left right =>
      simp only [Expr.references, referencesOfOption, List.append_subset] at named
      refine (evaluate_within left named.1.2).bind fun _ _ =>
        (Within.lift _).bind ?_
      intro isTrue _
      cases isTrue with
      | false => exact .pure trivial
      | true =>
          exact (evaluate_within right named.2).bind fun _ _ =>
            (Within.lift _).bind fun _ _ => .pure trivial
  case h_6 condition left right =>
      simp only [Expr.references, referencesOfOption, List.append_subset] at named
      refine (evaluate_within left named.1.2).bind fun _ _ =>
        (Within.lift _).bind ?_
      intro isTrue _
      cases isTrue with
      | false =>
          exact (evaluate_within right named.2).bind fun _ _ =>
            (Within.lift _).bind fun _ _ => .pure trivial
      | true => exact .pure trivial
  case h_7 condition name indices =>
      simp only [Expr.references, referencesOfOption, List.append_subset,
        List.cons_subset]
        at named
      refine (evaluateIndices_within indices named.1.2.2).bind
        fun ns sameLength => ?_
      refine .ask ?_ fun _ => .pure trivial
      simpa only [Question.Among, sameLength] using named.1.2.1
  case h_8 condition operand _ =>
      simp only [Expr.references, referencesOfOption, List.append_subset] at named
      exact (evaluate_within operand named.1.2).bind fun _ _ => .pure trivial
  case h_9 op condition operand _ _ =>
      simp only [Expr.references, referencesOfOption, List.append_subset] at named
      exact (evaluate_within operand named.1.2).bind fun _ _ => .lift _
  case h_10 op condition left right _ _ _ =>
      simp only [Expr.references, referencesOfOption, List.append_subset] at named
      exact (evaluate_within left named.1.2).bind fun _ _ =>
        (evaluate_within right named.2).bind fun _ _ => .lift _

/-- The evaluation of indices asks for their variables only, and yields one integer
for each of them. -/
theorem evaluateIndices_within
    (indices : List Expr)
    (named : referencesOfList indices ⊆ references) :
    (evaluateIndices indices).Within (Question.Among references) fun ns =>
      ns.length = indices.length := by
  match indices with
  | [] => exact .pure rfl
  | index :: rest =>
      simp only [referencesOfList, List.append_subset] at named
      refine (evaluate_within index named.1).bind fun _ _ =>
        (Within.lift _).bind fun _ _ => ?_
      refine (evaluateIndices_within rest named.2).bind fun ns sameLength =>
        .pure ?_
      rw [List.length_cons, sameLength, List.length_cons]

/-- The evaluation of arguments asks for their variables only. -/
theorem evaluateArguments_within
    (arguments : List Expr)
    (named : referencesOfList arguments ⊆ references) :
    (evaluateArguments arguments).Within (Question.Among references) fun _ =>
      True := by
  match arguments with
  | [] => exact .pure trivial
  | argument :: rest =>
      simp only [referencesOfList, List.append_subset] at named
      exact (evaluate_within argument named.1).bind fun _ _ =>
        (evaluateArguments_within rest named.2).bind fun _ _ => .pure trivial

end

theorem mem_dependencies_iff
    (expr : Expr)
    (name : String) :
    name ∈ expr.dependencies ↔ ∃ count, (name, count) ∈ expr.references := by
  rw [dependencies, List.mem_eraseDups, ← map_references, List.mem_map]
  constructor
  · rintro ⟨⟨_, count⟩, isMember, rfl⟩
    exact ⟨count, isMember⟩
  · rintro ⟨count, isMember⟩
    exact ⟨(name, count), isMember, rfl⟩

theorem mem_referencesOfList_iff
    (exprs : List Expr)
    (reference : String × Nat) :
    reference ∈ referencesOfList exprs ↔
      ∃ expr ∈ exprs, reference ∈ expr.references := by
  induction exprs with
  | nil => simp [referencesOfList]
  | cons expr rest ih => simp [referencesOfList, ih]

end Expr

/-! ## The questions of an expression -/

namespace Expression

open Dialogue Formula.Expr

/-- The variables in the members, with the numbers of their indices. -/
def references (expression : Expression) : List (String × Nat) :=
  referencesOfList expression.exprs

theorem mem_dependencies_iff
    (expression : Expression)
    (name : String) :
    name ∈ expression.dependencies ↔
      ∃ count, (name, count) ∈ expression.references := by
  simp only [dependencies, List.mem_eraseDups, List.mem_flatMap,
    Expr.mem_dependencies_iff, references, mem_referencesOfList_iff]
  constructor
  · rintro ⟨expr, isMember, count, isReference⟩
    exact ⟨count, expr, isMember, isReference⟩
  · rintro ⟨count, expr, isMember, isReference⟩
    exact ⟨expr, isMember, count, isReference⟩

theorem evaluateAll_within (expression : Expression) :
    expression.evaluateAll.Within (Question.Among expression.references) fun _ =>
      True :=
  evaluateArguments_within expression.exprs (List.Subset.refl _)

theorem evaluateAt_within
    (expression : Expression)
    (position : Nat) :
    (expression.evaluateAt position).Within (Question.Among expression.references)
      fun _ => True := by
  rw [evaluateAt]
  cases found : expression.exprs[position]? with
  | none => exact .pure trivial
  | some expr =>
      refine evaluate_within expr fun reference isReference => ?_
      exact (mem_referencesOfList_iff _ _).mpr
        ⟨expr, List.mem_of_getElem? found, isReference⟩

end Expression

end Formula
