import Formula.Expression
import Mathlib.Data.List.Forall2

/-!
# Conversations with a host

What an evaluation asks its host, in which order, and what it makes of refusals.
The host may be of another mind each time: what it answers is a function of all
that was asked and answered before.

A tree asks where its variables and its calls stand, and `Expr.inquiries` lists
these places behind one another: a condition in front of the operands, indices
in front of their variable and arguments in front of their call.  The questions
of an evaluation come from some of these places in the order of the list.  A
refusal ends the evaluation, unless it was asked whether a variable exists.
-/

namespace Formula

/-- A question, and the answer to it. -/
abbrev Exchange :=
  Question × Answer

/-- A host that remembers all exchanges so far, the latest one last. -/
abbrev Host :=
  List Exchange → Question → Answer

/-! ## Conversations -/

namespace Dialogue

variable {α β : Type}

/-- The exchanges of a dialogue with a host that had others before, and the
result. -/
def converse (host : Host) (past : List Exchange) :
    Dialogue α → List Exchange × Except Error α
  | done result => ([], result)
  | ask question next =>
    let exchange := (question, host past question)
    let (exchanges, result) := (next exchange.2).converse host (past ++ [exchange])
    (exchange :: exchanges, result)

/-- With these exchanges a dialogue comes to this result, whoever gives the
answers. -/
inductive Course : Dialogue α → List Exchange → Except Error α → Prop where
  | done (result : Except Error α) : Course (done result) [] result
  | ask {question : Question} {next : Answer → Dialogue α} {answer : Answer}
      {exchanges : List Exchange} {result : Except Error α} :
      Course (next answer) exchanges result →
        Course (ask question next) ((question, answer) :: exchanges) result

/-- A conversation with a host is a course of the dialogue. -/
theorem course_converse
    (host : Host)
    (past : List Exchange)
    (dialogue : Dialogue α) :
    dialogue.Course (dialogue.converse host past).1
      (dialogue.converse host past).2 := by
  induction dialogue generalizing past with
  | done result => exact .done result
  | ask question next ih => exact .ask (ih _ _)

/-- A resolver is a host that always gives the same answer. -/
theorem converse_answer
    (resolver : Resolver)
    (past : List Exchange)
    (dialogue : Dialogue α) :
    dialogue.converse (fun _ => resolver.answer) past =
      ((dialogue.asked resolver).map fun question =>
        (question, resolver.answer question), dialogue.run resolver) := by
  induction dialogue generalizing past with
  | done result => rfl
  | ask question next ih =>
      rw [converse, ih]
      rfl

section

variable {dialogue : Dialogue α} {next : α → Dialogue β}
variable {exchanges : List Exchange}

/-- A dialogue takes its course, and what is behind it goes on, unless there is an
error. -/
theorem Course.bind
    {first second : List Exchange}
    {value : α}
    {result : Except Error β}
    (course : dialogue.Course first (.ok value))
    (rest : (next value).Course second result) :
    (dialogue >>= next).Course (first ++ second) result := by
  change (dialogue.bind next).Course (first ++ second) result
  generalize isValue : Except.ok value = outcome at course
  induction course with
  | done outcome =>
      subst isValue
      exact rest
  | ask _ ih => exact .ask (ih isValue)

/-- Every course comes about in one of these two ways. -/
theorem Course.bind_cases
    {result : Except Error β}
    (course : (dialogue >>= next).Course exchanges result) :
    (∃ first second value, exchanges = first ++ second ∧
      dialogue.Course first (.ok value) ∧
        (next value).Course second result) ∨
      ∃ e, dialogue.Course exchanges (.error e) ∧ result = .error e := by
  change (dialogue.bind next).Course exchanges result at course
  induction dialogue generalizing exchanges with
  | done outcome =>
      cases outcome with
      | ok value => exact .inl ⟨[], exchanges, value, rfl, .done _, course⟩
      | error e =>
          cases course
          exact .inr ⟨e, .done _, rfl⟩
  | ask question rest ih =>
      rcases course with _ | course
      rcases ih _ course with
        ⟨first, second, value, rfl, before, behind⟩ | ⟨e, before, rfl⟩
      · exact .inl ⟨_ :: first, second, value, rfl, .ask before, behind⟩
      · exact .inr ⟨e, .ask before, rfl⟩

end

end Dialogue

/-! ## Places that ask -/

/-- What a place in a tree asks: for a variable, whether a variable exists, or for
a call. -/
inductive Inquiry where
  | lookup (name : String) (indices : List Expr)
  | existence (name : String) (indices : List Expr)
  | call (name : String) (arguments : List Expr)

namespace Inquiry

/-- A question that the node of an inquiry can put: there is one integer for each
index, and one value for each argument. -/
inductive Puts : Inquiry → Question → Prop where
  | lookup {name : String} {indices : List Expr} {ns : List Int64} :
      ns.length = indices.length → Puts (lookup name indices) (.lookup name ns)
  | existence {name : String} {indices : List Expr} {ns : List Int64} :
      ns.length = indices.length → Puts (existence name indices) (.lookup name ns)
  | call {name : String} {arguments : List Expr} {values : List Value} :
      values.length = arguments.length →
        Puts (call name arguments) (.call name values)

end Inquiry

namespace Expr

mutual

/-- The places in a tree that ask, those below a node in front of the node.  A
variable that stands directly under a test for existence is tested. -/
def inquiriesUnder (tested : Bool) : Expr → List Inquiry
  | literal _ => []
  | var name indices =>
    inquiriesOfList indices ++
      [if tested then .existence name indices else .lookup name indices]
  | call name arguments => inquiriesOfList arguments ++ [.call name arguments]
  | apply op condition left right =>
    inquiriesOfOption condition ++
      left.inquiriesUnder (right.isNone && op == .defined) ++
        inquiriesOfOption right

/-- The places in a list of trees that ask. -/
def inquiriesOfList : List Expr → List Inquiry
  | [] => []
  | expr :: rest => expr.inquiriesUnder false ++ inquiriesOfList rest

/-- The places that ask in a tree that may be missing. -/
def inquiriesOfOption : Option Expr → List Inquiry
  | none => []
  | some expr => expr.inquiriesUnder false

end

/-- The places in a tree that ask, those below a node in front of the node. -/
abbrev inquiries (expr : Expr) : List Inquiry :=
  expr.inquiriesUnder false

end Expr

/-! ## Dialogues along places that ask -/

namespace Dialogue

variable {α β : Type} {yields : α → Prop}

/-- Whatever the answers are, the questions come from the places in their order,
each place is passed once, and a refusal ends the dialogue, unless it was asked
whether a variable exists.  Then it counts as that there is no such variable. -/
inductive Along (yields : α → Prop) : List Inquiry → Dialogue α → Prop where
  | result {inquiries : List Inquiry} {result : α} :
      yields result → Along yields inquiries (done (.ok result))
  | error {inquiries : List Inquiry} (e : Error) :
      Along yields inquiries (done (.error e))
  | skip {inquiry : Inquiry} {inquiries : List Inquiry} {dialogue : Dialogue α} :
      Along yields inquiries dialogue →
        Along yields (inquiry :: inquiries) dialogue
  | ask {inquiry : Inquiry} {inquiries : List Inquiry} {question : Question}
      {next : Answer → Dialogue α} :
      inquiry.Puts question →
        (∀ value, Along yields inquiries (next (.ok value))) →
          (∀ e, next (.error e) = done (.error e)) →
            Along yields (inquiry :: inquiries) (ask question next)
  | test {name : String} {indices : List Expr} {ns : List Int64}
      {inquiries : List Inquiry}
      {next : Answer → Dialogue α} :
      ns.length = indices.length →
        (∀ value, Along yields inquiries (next (.ok value))) →
          (∀ e, next (.error e) = next (.ok .absent)) →
            Along yields (.existence name indices :: inquiries)
              (ask (.lookup name ns) next)

namespace Along

variable {inquiries : List Inquiry}

theorem pure
    {result : α}
    (fits : yields result) :
    Along yields inquiries (pure result) :=
  .result fits

/-- An outcome that no host decides asks nothing. -/
theorem lift (outcome : Except Error α) :
    Along (fun _ => True) inquiries (liftM outcome : Dialogue α) := by
  cases outcome with
  | ok result => exact .result trivial
  | error e => exact .error e

theorem question
    {inquiry : Inquiry}
    {asking : Question}
    (puts : inquiry.Puts asking) :
    Along (fun _ => True) [inquiry] (question asking) := by
  apply ask puts
  · intro value
    exact .result trivial
  · intro e
    rfl

/-- Places in front can be passed over. -/
theorem skip_front
    {dialogue : Dialogue α}
    (front : List Inquiry)
    (along : Along yields inquiries dialogue) :
    Along yields (front ++ inquiries) dialogue := by
  induction front with
  | nil => exact along
  | cons inquiry front ih => exact .skip ih

/-- Places behind the others can be passed over. -/
theorem skip_back
    {dialogue : Dialogue α}
    (along : Along yields inquiries dialogue)
    (back : List Inquiry) :
    Along yields (inquiries ++ back) dialogue := by
  induction along with
  | result fits => exact .result fits
  | error e => exact .error e
  | skip _ ih => exact .skip ih
  | ask puts _ refused ih => exact .ask puts ih refused
  | test sameLength _ refused ih => exact .test sameLength ih refused

theorem bind
    {dialogue : Dialogue α}
    {next : α → Dialogue β}
    {yields' : β → Prop}
    {inquiries' : List Inquiry}
    (first : Along yields inquiries dialogue)
    (second : ∀ result, yields result → Along yields' inquiries' (next result)) :
    Along yields' (inquiries ++ inquiries') (dialogue >>= next) := by
  change Along yields' (inquiries ++ inquiries') (dialogue.bind next)
  induction first with
  | result fits => exact (second _ fits).skip_front _
  | error e => exact .error e
  | skip _ ih => exact .skip ih
  | ask puts _ refused ih =>
      apply ask puts ih
      intro e
      rw [refused]
      rfl
  | test sameLength _ refused ih =>
      apply test sameLength ih
      intro e
      rw [refused]

/-- What asks nothing adds no places. -/
theorem bind_silent
    {dialogue : Dialogue α}
    {next : α → Dialogue β}
    {yields' : β → Prop}
    (first : Along yields inquiries dialogue)
    (second : ∀ result, yields result → Along yields' [] (next result)) :
    Along yields' inquiries (dialogue >>= next) := by
  rw [← List.append_nil inquiries]
  exact first.bind second

/-- An outcome that no host decides adds no places. -/
theorem lift_bind
    {outcome : Except Error α}
    {next : α → Dialogue β}
    {yields' : β → Prop}
    (second : ∀ result, Along yields' inquiries (next result)) :
    Along yields' inquiries ((liftM outcome : Dialogue α) >>= next) :=
  (lift outcome : Along _ [] _).bind fun result _ => second result

end Along

/-- The places that asked, what they asked and were answered, and what came of
it. -/
structure Follows
    (inquiries : List Inquiry)
    (dialogue : Dialogue α)
    (asked : List Inquiry)
    (exchanges : List Exchange)
    (result : Except Error α) :
    Prop where
  /-- Each place asked at most once, and the places in their order. -/
  inOrder : asked.Sublist inquiries
  /-- Every question is that of its place. -/
  puts :
    List.Forall₂ (fun inquiry exchange => inquiry.Puts exchange.1) asked exchanges
  /-- Who was refused asked whether a variable exists, and all went on as if the
  answer had been that it does not, or was the last to ask, and the refusal is the
  result. -/
  refused : ∀ before question e after,
    exchanges = before ++ (question, .error e) :: after →
      (∃ name indices, asked[before.length]? = some (.existence name indices) ∧
        dialogue.Course (before ++ (question, .ok .absent) :: after) result) ∨
      after = [] ∧ result = .error e

namespace Follows

variable {inquiries asked : List Inquiry} {exchanges : List Exchange}
  {result : Except Error α}

/-- A result that is there already. -/
theorem done
    (inquiries : List Inquiry)
    (result : Except Error α) :
    Follows inquiries (done result) [] [] result where
  inOrder := List.nil_sublist _
  puts := .nil
  refused before question e after impossible := by
    cases before <;> cases impossible

theorem skip
    {dialogue : Dialogue α}
    (follows : Follows inquiries dialogue asked exchanges result)
    (inquiry : Inquiry) :
    Follows (inquiry :: inquiries) dialogue asked exchanges result where
  inOrder := .cons _ follows.inOrder
  puts := follows.puts
  refused := follows.refused

/-- A question in front of all others, which is refused in one of the two ways if
at all. -/
theorem ask
    {inquiry : Inquiry}
    {question : Question}
    {next : Answer → Dialogue α}
    {answer : Answer}
    (puts : inquiry.Puts question)
    (follows : Follows inquiries (next answer) asked exchanges result)
    (refused : ∀ e, answer = .error e →
      (∃ name indices, inquiry = .existence name indices ∧
        (next (.ok .absent)).Course exchanges result) ∨
      exchanges = [] ∧ result = .error e) :
    Follows (inquiry :: inquiries) (ask question next) (inquiry :: asked)
      ((question, answer) :: exchanges) result where
  inOrder := .cons_cons _ follows.inOrder
  puts := .cons puts follows.puts
  refused before question' e after isCut := by
    cases before with
    | nil =>
        cases isCut
        rcases refused e rfl with ⟨name, indices, rfl, course⟩ | ended
        · exact .inl ⟨name, indices, rfl, .ask course⟩
        · exact .inr ended
    | cons first before =>
        cases isCut
        rcases follows.refused before question' e after rfl with
          ⟨name, indices, found, course⟩ | ended
        · exact .inl ⟨name, indices, found, .ask course⟩
        · exact .inr ended

end Follows

/-- A dialogue along places that ask follows them in each of its courses. -/
theorem Along.exists_follows
    {inquiries : List Inquiry}
    {dialogue : Dialogue α}
    {exchanges : List Exchange}
    {result : Except Error α}
    (along : Along yields inquiries dialogue)
    (course : dialogue.Course exchanges result) :
    ∃ asked, Follows inquiries dialogue asked exchanges result := by
  induction along generalizing exchanges with
  | result _ =>
      cases course
      exact ⟨[], .done _ _⟩
  | error e =>
      cases course
      exact ⟨[], .done _ _⟩
  | skip _ ih =>
      rcases ih course with ⟨asked, follows⟩
      exact ⟨asked, follows.skip _⟩
  | @ask inquiry inquiries question next puts _ refused ih =>
      rcases course with _ | @⟨_, _, answer, exchanges, _, course⟩
      cases answer with
      | ok value =>
          rcases ih value course with ⟨asked, follows⟩
          exact ⟨_, follows.ask puts nofun⟩
      | error e =>
          have ended := course
          rw [refused e] at ended
          cases ended
          have follows : Follows inquiries (next (.error e)) [] [] (.error e) := by
            rw [refused e]
            exact .done _ _
          refine ⟨_, follows.ask puts ?_⟩
          rintro _ ⟨⟩
          exact .inr ⟨rfl, rfl⟩
  | @test name indices ns inquiries next sameLength _ refused ih =>
      rcases course with _ | @⟨_, _, answer, exchanges, _, course⟩
      cases answer with
      | ok value =>
          rcases ih value course with ⟨asked, follows⟩
          exact ⟨_, follows.ask (.existence sameLength) nofun⟩
      | error e =>
          have asIfAbsent := course
          rw [refused e] at asIfAbsent
          rcases ih .absent asIfAbsent with ⟨asked, follows⟩
          rw [← refused e] at follows
          refine ⟨_, follows.ask (.existence sameLength) ?_⟩
          intro _ _
          exact .inl ⟨name, indices, rfl, asIfAbsent⟩

end Dialogue

/-! ## Evaluations -/

namespace Expr

open Dialogue

theorem inquiriesUnder_of_ne_var
    {expr : Expr}
    (notVar : ∀ name indices, expr = var name indices → False)
    (tested : Bool) :
    expr.inquiriesUnder tested = expr.inquiries := by
  cases expr with
  | var name indices => exact absurd rfl (notVar name indices)
  | _ => rfl

mutual

/-- A tree is evaluated along its places that ask. -/
theorem evaluate_along (expr : Expr) :
    Along (fun _ => True) expr.inquiries expr.evaluate := by
  unfold evaluate
  split
  case h_1 => exact .pure trivial
  case h_2 name indices =>
      exact (evaluateIndices_along indices).bind fun ns sameLength =>
        .question (.lookup sameLength)
  case h_3 name arguments =>
      exact (evaluateArguments_along arguments).bind fun values sameLength =>
        .question (.call sameLength)
  case h_4 condition left right =>
      show Along _ (condition.inquiries ++ left.inquiries ++ right.inquiries) _
      rw [List.append_assoc]
      apply (evaluate_along condition).bind
      intro value _
      apply Along.lift_bind
      intro isTrue
      cases isTrue with
      | true => exact (evaluate_along left).skip_back _
      | false => exact (evaluate_along right).skip_front _
  case h_5 condition left right =>
      show Along _
        (inquiriesOfOption condition ++ left.inquiries ++ right.inquiries) _
      rw [List.append_assoc]
      apply Along.skip_front
      apply (evaluate_along left).bind
      intro value _
      apply Along.lift_bind
      intro isTrue
      cases isTrue with
      | true =>
          apply (evaluate_along right).bind_silent
          intro value _
          exact Along.lift_bind fun _ => .pure trivial
      | false => exact .pure trivial
  case h_6 condition left right =>
      show Along _
        (inquiriesOfOption condition ++ left.inquiries ++ right.inquiries) _
      rw [List.append_assoc]
      apply Along.skip_front
      apply (evaluate_along left).bind
      intro value _
      apply Along.lift_bind
      intro isTrue
      cases isTrue with
      | true => exact .pure trivial
      | false =>
          apply (evaluate_along right).bind_silent
          intro value _
          exact Along.lift_bind fun _ => .pure trivial
  case h_7 condition name indices =>
      show Along _ (inquiriesOfOption condition ++
        (inquiriesOfList indices ++ [.existence name indices]) ++ []) _
      rw [List.append_nil]
      apply Along.skip_front
      apply (evaluateIndices_along indices).bind
      intro ns sameLength
      apply Along.test sameLength
      · intro value
        exact .pure trivial
      · intro e
        rfl
  case h_8 condition operand notVar =>
      show Along _
        (inquiriesOfOption condition ++ operand.inquiriesUnder true ++ []) _
      rw [List.append_nil, inquiriesUnder_of_ne_var notVar]
      apply Along.skip_front
      exact (evaluate_along operand).bind_silent fun _ _ => .pure trivial
  case h_9 op condition operand _ notDefined =>
      have notTested : (true && op == .defined) = false :=
        beq_eq_false_iff_ne.mpr notDefined
      show Along _
        (inquiriesOfOption condition ++ operand.inquiriesUnder (true && _) ++ []) _
      rw [List.append_nil, notTested]
      apply Along.skip_front
      exact (evaluate_along operand).bind_silent fun _ _ => .lift _
  case h_10 op condition left right _ _ _ =>
      show Along _
        (inquiriesOfOption condition ++ left.inquiries ++ right.inquiries) _
      rw [List.append_assoc]
      apply Along.skip_front
      apply (evaluate_along left).bind
      intro value _
      exact (evaluate_along right).bind_silent fun _ _ => .lift _

/-- Indices are evaluated along their places that ask, and yield one integer for
each of them. -/
theorem evaluateIndices_along (indices : List Expr) :
    Along (fun ns => ns.length = indices.length) (inquiriesOfList indices)
      (evaluateIndices indices) := by
  match indices with
  | [] => exact .pure rfl
  | index :: rest =>
      apply (evaluate_along index).bind
      intro value _
      apply Along.lift_bind
      intro n
      apply (evaluateIndices_along rest).bind_silent
      intro ns sameLength
      exact .pure (congrArg (· + 1) sameLength)

/-- Arguments are evaluated along their places that ask, and yield one value for
each of them. -/
theorem evaluateArguments_along (arguments : List Expr) :
    Along (fun values => values.length = arguments.length)
      (inquiriesOfList arguments) (evaluateArguments arguments) := by
  match arguments with
  | [] => exact .pure rfl
  | argument :: rest =>
      apply (evaluate_along argument).bind
      intro value _
      apply (evaluateArguments_along rest).bind_silent
      intro values sameLength
      exact .pure (congrArg (· + 1) sameLength)

end

/-- If the lookup of a variable is refused that is tested for existence, the test
comes to `false`. -/
theorem course_defined_of_refused
    (condition : Option Expr)
    (name : String)
    {indices : List Expr}
    {exchanges : List Exchange}
    {ns : List Int64}
    (computed : (evaluateIndices indices).Course exchanges (.ok ns))
    (e : Error) :
    (apply .defined condition (var name indices) none).evaluate.Course
      (exchanges ++ [(.lookup name ns, .error e)]) (.ok (.bool false)) := by
  rw [evaluate]
  exact computed.bind (.ask (.done _))

/-- Members of a list are evaluated one behind the other, up to the first one with
an error. -/
theorem course_evaluateArguments_cases
    {exprs : List Expr}
    {exchanges : List Exchange}
    {result : Except Error (List Value)}
    (course : (evaluateArguments exprs).Course exchanges result) :
    (∃ parts : List (List Exchange × Value),
      List.Forall₂ (fun expr part => expr.evaluate.Course part.1 (.ok part.2))
          exprs parts ∧
        exchanges = parts.flatMap Prod.fst ∧ result = .ok (parts.map Prod.snd)) ∨
    ∃ before failing behind, ∃ parts : List (List Exchange × Value), ∃ last e,
      exprs = before ++ failing :: behind ∧
        List.Forall₂ (fun expr part => expr.evaluate.Course part.1 (.ok part.2))
          before parts ∧
        failing.evaluate.Course last (.error e) ∧
        exchanges = parts.flatMap Prod.fst ++ last ∧ result = .error e := by
  induction exprs generalizing exchanges result with
  | nil =>
      cases course
      exact .inl ⟨[], .nil, rfl, rfl⟩
  | cons expr exprs ih =>
      rcases course.bind_cases with
        ⟨first, second, value, rfl, ofFirst, course⟩ | ⟨e, ofFirst, rfl⟩
      · rcases course.bind_cases with
          ⟨others, nothing, values, rfl, ofOthers, ended⟩ | ⟨e, ofOthers, rfl⟩
        · cases ended
          rcases ih ofOthers with ⟨parts, ofParts, rfl, isValues⟩ |
            ⟨_, _, _, _, _, _, _, _, _, _, isError⟩
          · cases isValues
            exact .inl ⟨(first, value) :: parts, .cons ofFirst ofParts,
              by simp, rfl⟩
          · cases isError
        · rcases ih ofOthers with ⟨_, _, _, isValues⟩ |
            ⟨before, failing, behind, parts, last, e, rfl, ofParts, ofLast,
              rfl, isError⟩
          · cases isValues
          · cases isError
            exact .inr ⟨expr :: before, failing, behind, (first, value) :: parts,
              last, _, rfl, .cons ofFirst ofParts, ofLast, by simp, rfl⟩
      · exact .inr ⟨[], expr, exprs, [], exchanges, e, rfl, .nil, ofFirst,
          rfl, rfl⟩

end Expr

namespace Expression

open Dialogue

/-- What an evaluation asks, and what it makes of refusals, whatever the host
answers.  The conversation with a host is a course of the evaluation, and the
one with a resolver is its run.  In each course of a tree the places of the
tree ask in their order, each at most once.  A refusal is the last answer and
the result, unless it was asked whether a variable exists: then the test
comes to `false`, and all goes on as if the variable was absent.  In a course
of a list the members are evaluated one behind the other, up to and including
the first one with an error. -/
theorem converse_inOrder
    (host : Host)
    (past : List Exchange) :
    (∀ {α : Type} (dialogue : Dialogue α),
      dialogue.Course (dialogue.converse host past).1
        (dialogue.converse host past).2) ∧
    (∀ {α : Type} (dialogue : Dialogue α) (resolver : Resolver),
      dialogue.converse (fun _ => resolver.answer) past =
        ((dialogue.asked resolver).map fun question =>
          (question, resolver.answer question), dialogue.run resolver)) ∧
    (∀ (expr : Expr) exchanges result, expr.evaluate.Course exchanges result →
      ∃ asked, Follows expr.inquiries expr.evaluate asked exchanges result) ∧
    (∀ condition name indices exchanges ns e,
      (Expr.evaluateIndices indices).Course exchanges (.ok ns) →
        (Expr.apply .defined condition (.var name indices) none).evaluate.Course
          (exchanges ++ [(.lookup name ns, .error e)]) (.ok (.bool false))) ∧
    ∀ (expression : Expression) exchanges result,
      expression.evaluateAll.Course exchanges result →
        (∃ parts : List (List Exchange × Value),
          List.Forall₂ (fun expr part => expr.evaluate.Course part.1 (.ok part.2))
              expression.exprs parts ∧
            exchanges = parts.flatMap Prod.fst ∧
            result = .ok (parts.map Prod.snd)) ∨
        ∃ before failing behind, ∃ parts : List (List Exchange × Value), ∃ last e,
          expression.exprs = before ++ failing :: behind ∧
            List.Forall₂
                (fun expr part => expr.evaluate.Course part.1 (.ok part.2))
                before parts ∧
            failing.evaluate.Course last (.error e) ∧
            exchanges = parts.flatMap Prod.fst ++ last ∧ result = .error e := by
  refine ⟨course_converse host past, ?_, ?_, ?_, ?_⟩
  · intro α dialogue resolver
    exact converse_answer resolver past dialogue
  · intro expr exchanges result course
    exact expr.evaluate_along.exists_follows course
  · intro condition name indices exchanges ns e computed
    exact Expr.course_defined_of_refused condition name computed e
  · intro expression exchanges result course
    exact Expr.course_evaluateArguments_cases course

end Expression

end Formula
