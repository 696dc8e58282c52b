import Formula.Parse.Feed

/-!
# Outcomes of parsing steps

A parsing step yields something and leaves the rest of its feed.  An `Outcome`
also carries the proof that the rest is no larger than what the step began with;
`Outcome.plain` forgets it.
-/

namespace Formula

open TokenFeed

/-- The yield of a step that began with a feed of size `bound` at most, and the
rest of the feed, or else an error. -/
inductive Outcome (τ : Type) [TokenFeed τ] (bound : Nat) (α : Type) where
  | ok (value : α) (rest : τ) (le : size rest ≤ bound)
  | error (error : Error) (rest : τ)

namespace Outcome

variable {τ : Type} [TokenFeed τ] {α β : Type} {n m : Nat}

/-- The outcome without its bound. -/
def plain : Outcome τ n α → Except Error α × τ
  | ok value rest _ => (.ok value, rest)
  | error e rest => (.error e, rest)

/-- The same outcome under a larger bound. -/
def weaken (le : n ≤ m) : Outcome τ n α → Outcome τ m α
  | ok value rest bound => ok value rest (Nat.le_trans bound le)
  | error e rest => error e rest

/-- A step after a step that yielded something. -/
def bind
    (outcome : Outcome τ n α)
    (next : α → (rest : τ) → size rest ≤ n → Outcome τ n β) :
    Outcome τ n β :=
  match outcome with
  | ok value rest bound => next value rest bound
  | error e rest => error e rest

/-- A change of the yield. -/
def map (f : α → β) : Outcome τ n α → Outcome τ n β
  | ok value rest bound => ok (f value) rest bound
  | error e rest => error e rest

@[simp]
theorem plain_weaken
    (le : n ≤ m)
    (outcome : Outcome τ n α) :
    (outcome.weaken le).plain = outcome.plain := by
  cases outcome <;> rfl

@[simp]
theorem plain_map
    (f : α → β)
    (outcome : Outcome τ n α) :
    (outcome.map f).plain = (outcome.plain.1.map f, outcome.plain.2) := by
  cases outcome <;> rfl

end Outcome

/-- The error of a token where something else was expected. -/
def Token.unexpected (token : Token) (expected : Expectation) : Error :=
  .unexpected expected token.shown token.place

/-- A token that was read from a feed of size `bound`, and the feed behind it. -/
inductive Reading (τ : Type) [TokenFeed τ] (bound : Nat) where
  | token
      (token : Token)
      (rest : τ)
      (le : size rest ≤ bound)
      (lt : token.kind ≠ .endOfInput → size rest < bound)
      (back : size (unget rest) ≤ bound)
  | error (error : Error) (rest : τ)

/-- Reads the next token. -/
def Reading.of {τ : Type} [TokenFeed τ] (mode : Mode) (feed : τ) :
    Reading τ (size feed) :=
  let rest := advance mode feed
  if malformed : (TokenFeed.token rest).kind = .error then
    match failure rest with
    | some fault => error (.malformed fault) rest
    | none => error ((TokenFeed.token rest).unexpected .operand) rest
  else
    token (TokenFeed.token rest) rest
      (size_advance_le mode feed)
      (fun notEnd => size_advance_lt mode feed notEnd malformed)
      (size_unget_le mode feed malformed)

/-- Reads a token that has to be of the given kind. -/
def Outcome.expect {τ : Type} [TokenFeed τ]
    (kind : TokenKind)
    (expected : Expectation)
    (feed : τ) :
    Outcome τ (size feed) Unit :=
  match Reading.of .operator feed with
  | .error e rest => .error e rest
  | .token token rest le _ _ =>
    if token.kind = kind then .ok () rest le
    else .error (token.unexpected expected) rest

end Formula
