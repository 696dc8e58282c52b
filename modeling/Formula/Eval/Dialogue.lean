import Formula.Error

/-!
# Dialogues with a host

An expression knows nothing of the outside: it asks a host for the values of
variables and the results of calls.  A `Dialogue` is a computation that may ask
such questions on its way, and ends with a result or an error.  A `Resolver`
answers questions out of itself; `Dialogue.run` and `Dialogue.asked` say what a
dialogue comes to with a resolver, and what it asks.
-/

namespace Formula

/-- What an expression can ask its host. -/
inductive Question where
  | lookup (name : String) (indices : List Int64)
  | call (name : String) (arguments : List Value)
  deriving DecidableEq

/-- A host's answer. -/
abbrev Answer :=
  Except Error Value

/-- A computation that asks a host before it ends. -/
inductive Dialogue (α : Type) where
  | done (result : Except Error α)
  | ask (question : Question) (next : Answer → Dialogue α)

namespace Dialogue

variable {α β : Type}

/-- Goes on with the result of a dialogue, unless it is an error. -/
def bind (dialogue : Dialogue α) (next : α → Dialogue β) : Dialogue β :=
  match dialogue with
  | done (.ok result) => next result
  | done (.error e) => done (.error e)
  | ask question rest => ask question fun answer => (rest answer).bind next

instance : Monad Dialogue where
  pure result := done (.ok result)
  bind := bind

instance : MonadLift (Except Error) Dialogue where
  monadLift := done

/-- Asks one question, whose answer is the result. -/
def question (question : Question) : Dialogue Value :=
  ask question done

end Dialogue

/-- A host that always gives the same answer to the same question. -/
structure Resolver where
  lookup (name : String) (indices : List Int64) : Answer
  call (name : String) (arguments : List Value) : Answer

/-- The resolver's answer to a question. -/
def Resolver.answer (resolver : Resolver) : Question → Answer
  | .lookup name indices => resolver.lookup name indices
  | .call name arguments => resolver.call name arguments

namespace Dialogue

variable {α β : Type}

/-- What the dialogue comes to with a resolver. -/
def run (resolver : Resolver) : Dialogue α → Except Error α
  | done result => result
  | ask question next => (next (resolver.answer question)).run resolver

/-- The questions that the dialogue asks a resolver. -/
def asked (resolver : Resolver) : Dialogue α → List Question
  | done _ => []
  | ask question next =>
    question :: (next (resolver.answer question)).asked resolver

@[simp]
theorem run_pure
    (resolver : Resolver)
    (result : α) :
    (pure result : Dialogue α).run resolver = .ok result :=
  rfl

@[simp]
theorem run_done
    (resolver : Resolver)
    (result : Except Error α) :
    (done result).run resolver = result :=
  rfl

@[simp]
theorem run_bind
    (resolver : Resolver)
    (dialogue : Dialogue α)
    (next : α → Dialogue β) :
    (dialogue >>= next).run resolver =
      dialogue.run resolver >>= fun result => (next result).run resolver := by
  change (dialogue.bind next).run resolver = _
  induction dialogue with
  | done result => cases result <;> rfl
  | ask question rest ih => exact ih (resolver.answer question)

@[simp]
theorem run_question
    (resolver : Resolver)
    (asking : Question) :
    (question asking).run resolver = resolver.answer asking :=
  rfl

end Dialogue

end Formula
