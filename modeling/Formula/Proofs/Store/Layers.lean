import Formula.Expression
import Formula.Proofs.Store.Map

/-!
# Layers of stores

Stores can stand behind one another, each asking the next one for what it does
not hold.  Such layers are one store with the entries of all, where those of
inner layers hide those of outer ones.  A store serves a dialogue by answering
what it holds and passing all else on as it was asked, so that layers and their
merger ask the host behind them the same questions, in the same order and with
the same names, indices and arguments.
-/

namespace Formula

/-- Hosts that give the same answers are the same. -/
theorem Resolver.eq_of_answer_eq
    {first second : Resolver}
    (alike : ∀ question, first.answer question = second.answer question) :
    first = second := by
  cases first
  cases second
  congr
  · funext name indices
    exact alike (.lookup name indices)
  · funext name arguments
    exact alike (.call name arguments)

end Formula

namespace Formula.Variables

open Dialogue

/-! ## One store -/

/-- What a store answers by itself. -/
def answer? (scope : Variables) : Question → Option Value
  | .lookup name indices => scope.get? (indexedName name indices)
  | .call _ _ => none

/-- The host that a store passes questions on to. -/
def behind (scope : Variables) : Resolver :=
  scope.parent.getD .builtin

theorem answer_resolver
    (scope : Variables)
    (question : Question) :
    scope.resolver.answer question =
      match scope.answer? question with
      | some value => .ok value
      | none => scope.behind.answer question := by
  cases question with
  | lookup name indices => rfl
  | call name arguments => rfl

section

variable {α : Type}

/-- A dialogue with the questions answered that a store can answer. -/
def serve (scope : Variables) : Dialogue α → Dialogue α
  | done result => done result
  | ask question next =>
    match scope.answer? question with
    | some value => scope.serve (next (.ok value))
    | none => ask question fun answer => scope.serve (next answer)

theorem serve_ask_of_some
    {scope : Variables}
    {question : Question}
    {value : Value}
    (held : scope.answer? question = some value)
    (next : Answer → Dialogue α) :
    scope.serve (ask question next) = scope.serve (next (.ok value)) := by
  rw [serve, held]

theorem serve_ask_of_none
    {scope : Variables}
    {question : Question}
    (missing : scope.answer? question = none)
    (next : Answer → Dialogue α) :
    scope.serve (ask question next) = ask question fun answer =>
      scope.serve (next answer) := by
  rw [serve, missing]

/-- To ask a store is to let it serve, and to ask the host behind it for the
rest. -/
theorem run_serve
    (scope : Variables)
    (dialogue : Dialogue α) :
    (scope.serve dialogue).run scope.behind = dialogue.run scope.resolver := by
  induction dialogue with
  | done result => rfl
  | ask question next ih =>
      rw [run, answer_resolver]
      cases answered : scope.answer? question with
      | some value =>
          rw [serve_ask_of_some answered]
          exact ih (.ok value)
      | none =>
          rw [serve_ask_of_none answered]
          exact ih (scope.behind.answer question)

/-- The host behind a store is asked what the store does not hold. -/
theorem asked_serve
    (scope : Variables)
    (dialogue : Dialogue α) :
    (scope.serve dialogue).asked scope.behind =
      (dialogue.asked scope.resolver).filter fun question =>
        (scope.answer? question).isNone := by
  induction dialogue with
  | done result => rfl
  | ask question next ih =>
      rw [asked, answer_resolver]
      cases answered : scope.answer? question with
      | some value =>
          rw [serve_ask_of_some answered,
            List.filter_cons_of_neg (by rw [answered]; nofun)]
          exact ih (.ok value)
      | none =>
          rw [serve_ask_of_none answered,
            List.filter_cons_of_pos (by rw [answered]; rfl), asked]
          exact congrArg _ (ih (scope.behind.answer question))

/-- A store that holds nothing answers nothing. -/
theorem serve_of_empty
    {scope : Variables}
    (isEmpty : scope.entries = [])
    (dialogue : Dialogue α) :
    scope.serve dialogue = dialogue := by
  induction dialogue with
  | done result => rfl
  | ask question next ih =>
      have missing : scope.answer? question = none := by
        cases question with
        | lookup name indices => rw [answer?, get?, isEmpty, List.lookup_nil]
        | call name arguments => rfl
      rw [serve_ask_of_none missing]
      exact congrArg (ask question) (funext ih)

/-- Two stores that serve one behind the other are one that answers what
either can, the inner one first. -/
theorem serve_serve
    {inner outer merged : Variables}
    (both : ∀ question,
      merged.answer? question =
        (inner.answer? question).or (outer.answer? question))
    (dialogue : Dialogue α) :
    outer.serve (inner.serve dialogue) = merged.serve dialogue := by
  induction dialogue with
  | done result => rfl
  | ask question next ih =>
      have either := both question
      cases held : inner.answer? question with
      | some value =>
          rw [held, Option.some_or] at either
          rw [serve_ask_of_some held, serve_ask_of_some either]
          exact ih (.ok value)
      | none =>
          rw [held, Option.none_or] at either
          rw [serve_ask_of_none held]
          cases held' : outer.answer? question with
          | some value =>
              rw [held'] at either
              rw [serve_ask_of_some held', serve_ask_of_some either]
              exact ih (.ok value)
          | none =>
              rw [held'] at either
              rw [serve_ask_of_none held', serve_ask_of_none either]
              exact congrArg (ask question) (funext ih)

end

/-! ## Layers -/

/-- The host that layers are in front of a root, the innermost one first. -/
def stack (root : Option Resolver) : List Variables → Option Resolver
  | [] => root
  | layer :: outer => some (layer.setParent (stack root outer)).resolver

/-- A store with the given entries on top of its own, the first ones hiding later
ones. -/
def overlay (entries : List (String × Value)) (scope : Variables) : Variables :=
  entries.foldr (fun entry scope => (scope.set entry.1 entry.2).2) scope

/-- One store in front of a root that holds what layers hold, where inner layers
hide outer ones. -/
def merge (root : Option Resolver) (layers : List Variables) : Variables :=
  layers.foldr (fun layer merged => merged.overlay layer.entries)
    { parent := root }

theorem get?_overlay
    (scope : Variables)
    (entries : List (String × Value))
    (name : String) :
    (scope.overlay entries).get? name =
      (entries.lookup name).or (scope.get? name) := by
  induction entries with
  | nil => rfl
  | cons entry entries ih =>
      show ((scope.overlay entries).set entry.1 entry.2).2.get? name = _
      rw [List.lookup_cons]
      by_cases isFirst : name = entry.1
      · rw [isFirst, get?_set_self, beq_self_eq_true]
        rfl
      · rw [get?_set_of_ne _ _ isFirst, beq_eq_false_iff_ne.mpr isFirst]
        exact ih

theorem parent_overlay
    (scope : Variables)
    (entries : List (String × Value)) :
    (scope.overlay entries).parent = scope.parent := by
  induction entries with
  | nil => rfl
  | cons entry entries ih => exact ih

section

variable (root : Option Resolver) (layers : List Variables)

theorem parent_merge : (merge root layers).parent = root := by
  induction layers with
  | nil => rfl
  | cons layer outer ih => exact (parent_overlay _ layer.entries).trans ih

theorem get?_merge (name : String) :
    (merge root layers).get? name = layers.findSome? (·.get? name) := by
  induction layers with
  | nil => rfl
  | cons layer outer ih =>
      show ((merge root outer).overlay layer.entries).get? name = _
      rw [get?_overlay, ih, List.findSome?_cons, get?]
      cases layer.entries.lookup name <;> rfl

theorem answer?_merge_cons
    (layer : Variables)
    (question : Question) :
    (merge root (layer :: layers)).answer? question =
      (layer.answer? question).or ((merge root layers).answer? question) := by
  cases question with
  | lookup name indices => exact get?_overlay _ layer.entries _
  | call name arguments => rfl

/-- A merger leaves a question open if all layers do. -/
theorem isNone_answer?_merge
    (question : Question) :
    ((merge root layers).answer? question).isNone =
      layers.all fun layer => (layer.answer? question).isNone := by
  induction layers with
  | nil => cases question <;> rfl
  | cons layer outer ih =>
      rw [answer?_merge_cons, List.all_cons, ← ih]
      cases layer.answer? question <;> rfl

theorem answer_behind_merge
    (question : Question) :
    (merge root layers).resolver.answer question =
      match (merge root layers).answer? question with
      | some value => .ok value
      | none => (root.getD .builtin).answer question := by
  rw [answer_resolver, behind, parent_merge]

/-- Layers in front of a root are the host that their merger is. -/
theorem stack_eq_merge :
    (stack root layers).getD .builtin = (merge root layers).resolver := by
  induction layers with
  | nil => rfl
  | cons layer outer ih =>
      apply Resolver.eq_of_answer_eq
      intro question
      show (layer.setParent (stack root outer)).resolver.answer question = _
      have behindLayer : (layer.setParent (stack root outer)).behind =
          (merge root outer).resolver := ih
      have held : (layer.setParent (stack root outer)).answer? question =
          layer.answer? question := by
        cases question <;> rfl
      rw [answer_resolver, behindLayer, held, answer_behind_merge,
        answer_behind_merge, answer?_merge_cons]
      cases layer.answer? question <;> rfl

/-- To be served by one layer after the other is to be served by their merger. -/
theorem foldl_serve
    {α : Type}
    (dialogue : Dialogue α) :
    layers.foldl (fun served layer => layer.serve served) dialogue =
      (merge root layers).serve dialogue := by
  induction layers generalizing dialogue with
  | nil => exact (serve_of_empty rfl dialogue).symm
  | cons layer outer ih =>
      rw [List.foldl_cons, ih]
      exact serve_serve (answer?_merge_cons root outer layer) dialogue

/-- Layers behave as one store over the same root that holds the bindings of all,
where inner layers hide outer ones.  Expressions have the same values with both.
What no layer holds is asked of the root, or of the built-in functions without
one, with the name and the indices as they were asked, and so is every call.
This holds of every root, also of one that is not a function of the question: the
dialogue that is left for it is the same. -/
theorem evaluate_stack :
    let host := (stack root layers).getD .builtin
    let merged := merge root layers
    (merged.parent = root ∧
      ∀ name, merged.get? name = layers.findSome? fun layer => layer.get? name) ∧
    (∀ expression : Expression,
      expression.evaluate.run host = expression.evaluate.run merged.resolver ∧
        (∀ position,
          (expression.evaluateAt position).run host =
            (expression.evaluateAt position).run merged.resolver) ∧
        expression.evaluateAll.run host =
            expression.evaluateAll.run merged.resolver) ∧
    (∀ name indices,
      host.lookup name indices =
        match layers.findSome? fun layer =>
          layer.get? (indexedName name indices) with
        | some value => .ok value
        | none => (root.getD .builtin).lookup name indices) ∧
    (∀ name arguments,
      host.call name arguments = (root.getD .builtin).call name arguments) ∧
    ∀ {α : Type} (dialogue : Dialogue α),
      let served := layers.foldl (fun served layer => layer.serve served) dialogue
      served = merged.serve dialogue ∧
        served.run (root.getD .builtin) = dialogue.run host ∧
        served.asked (root.getD .builtin) =
          (dialogue.asked host).filter fun question =>
            layers.all fun layer => (layer.answer? question).isNone := by
  intro host merged
  have same : host = merged.resolver := stack_eq_merge root layers
  have behind : merged.behind = root.getD .builtin := by
    rw [Variables.behind, parent_merge]
  refine ⟨⟨parent_merge root layers, get?_merge root layers⟩, ?_, ?_, ?_, ?_⟩
  · intro expression
    rw [same]
    exact ⟨rfl, fun _ => rfl, rfl⟩
  · intro name indices
    rw [same, ← get?_merge root layers]
    exact answer_behind_merge root layers (.lookup name indices)
  · intro name arguments
    rw [same]
    exact answer_behind_merge root layers (.call name arguments)
  · intro α dialogue served
    have isMerged : served = merged.serve dialogue :=
      foldl_serve root layers dialogue
    refine ⟨isMerged, ?_, ?_⟩
    · rw [isMerged, ← behind, run_serve, same]
    · rw [isMerged, ← behind, asked_serve, same]
      congr
      funext question
      exact isNone_answer?_merge root layers question

end

end Formula.Variables
