import Formula.Proofs.Parse.Prefixes
import Formula.Proofs.Token.Past

/-!
# Texts that go on alike

Tokenizers that have the same text to come, apart from blanks in front of it,
serve the same tokens from then on, at other places.  So a parser finds the same
in both, and its errors differ in nothing but the places that they name.
-/

namespace Formula

open Text

/-! ## Errors without places -/

/-- The error as if it were at the front of the text. -/
def Error.unplaced : Error → Error
  | malformed failure => malformed { failure with place := {} }
  | unexpected expected found _ => unexpected expected found {}
  | e => e

/-- The same result, or errors that differ in their places only. -/
def Parse.SameOutcome {α : Type} (outcome outcome' : Except Error α) : Prop :=
  outcome.mapError Error.unplaced = outcome'.mapError Error.unplaced

theorem Parse.SameOutcome.map {α β : Type}
    {outcome outcome' : Except Error α}
    (same : SameOutcome outcome outcome')
    (f : α → β) :
    SameOutcome (f <$> outcome) (f <$> outcome') := by
  have commutes : ∀ outcome : Except Error α,
      (f <$> outcome).mapError Error.unplaced =
        f <$> outcome.mapError Error.unplaced := by
    intro outcome
    cases outcome <;> rfl
  rw [SameOutcome, commutes, commutes]
  exact congrArg (f <$> ·) same

namespace Tokenizer

/-! ## Aligned tokenizers -/

/-- Tokenizers at tokens that are the same but for their places, over texts that
go on in the same way up to blanks. -/
structure Aligned (left right : Tokenizer Reader) : Prop where
  rest_eq :
    left.source.rest.dropWhile isBlank = right.source.rest.dropWhile isBlank
  moved : Grammar.Moved left.token right.token
  pending_eq : left.pending = right.pending
  cause_eq :
    left.failure.map ScanFailure.cause = right.failure.map ScanFailure.cause

variable {left right : Tokenizer Reader}

/-- What is read next from texts that go on in the same way is aligned. -/
theorem aligned_scan
    (flags : Flags)
    (sameRest :
      left.source.rest.dropWhile isBlank = right.source.rest.dropWhile isBlank)
    (samePending : left.pending = right.pending)
    (sameCause :
      left.failure.map ScanFailure.cause = right.failure.map ScanFailure.cause) :
    Aligned (left.scan flags) (right.scan flags) := by
  rcases left with ⟨⟨past, chars⟩, token, pending, failure⟩
  rcases right with ⟨⟨past', chars'⟩, token', pending', failure'⟩
  obtain rfl : pending = pending' := samePending
  dsimp only at sameRest sameCause
  rcases Scanned.lex_past flags ((chars.takeWhile isBlank).reverse ++ past)
    ((chars'.takeWhile isBlank).reverse ++ past') (chars.dropWhile isBlank) with
    ⟨lexeme, rest, _, isSource, lexed⟩
  simp only [scan, Reader.readWhile_eq, ← sameRest, lexed, isSource]
  split
  · exact ⟨rfl, ⟨_, rfl⟩, rfl, sameCause⟩
  · exact ⟨rfl, ⟨_, rfl⟩, rfl, rfl⟩

theorem Aligned.get
    (aligned : Aligned left right)
    (flags : Flags) :
    Aligned (left.get flags) (right.get flags) := by
  have again :=
    aligned_scan flags aligned.rest_eq aligned.pending_eq aligned.cause_eq
  rw [Tokenizer.get, Tokenizer.get, ← aligned.pending_eq, aligned.moved.kind_eq]
  split
  · exact ⟨aligned.rest_eq, aligned.moved, rfl, aligned.cause_eq⟩
  split
  · exact aligned
  · exact again
  · split
    · exact again
    · exact aligned

theorem unexpected_unplaced_of_moved
    {token token' : Token}
    (moved : Grammar.Moved token token')
    (expected : Expectation) :
    (token.unexpected expected).unplaced =
      (token'.unexpected expected).unplaced := by
  rcases moved with ⟨place, rfl⟩
  rfl

theorem Aligned.fault_unplaced (aligned : Aligned left right) :
    (Parse.fault left).unplaced = (Parse.fault right).unplaced := by
  have sameCause : (TokenFeed.failure left).map ScanFailure.cause =
      (TokenFeed.failure right).map ScanFailure.cause := aligned.cause_eq
  rw [Parse.fault, Parse.fault]
  cases failed : TokenFeed.failure left with
  | none =>
      rw [failed, Option.map_none, eq_comm, Option.map_eq_none_iff] at sameCause
      rw [sameCause]
      exact unexpected_unplaced_of_moved aligned.moved _
  | some failure =>
      rw [failed, Option.map_some, eq_comm, Option.map_eq_some_iff] at sameCause
      rcases sameCause with ⟨failure', failed', same⟩
      rw [failed']
      simp only [Error.unplaced, same]

/-- Aligned tokenizers are feeds that no parser can tell apart, but for places in
errors.  What they serve next has to be aligned, which is so even if they are not
yet. -/
theorem alignedSimulation :
    Parse.FeedSimulation (fun _ => False)
      (fun mode (left right : Tokenizer Reader) =>
        Aligned (left.get mode.flags) (right.get mode.flags))
      (fun _ _ => True) (fun e e' => e.unplaced = e'.unplaced) :=
  .of_get (fun mode aligned => aligned.get mode.flags)
    (fun aligned => sameMeaning_of_moved aligned.moved)
    (fun aligned => aligned.fault_unplaced)
    fun aligned expected => unexpected_unplaced_of_moved aligned.moved expected

end Tokenizer

/-- Results that agree up to places are the same outcome. -/
theorem Parse.sameOutcome_of_agree
    {τ υ α : Type}
    {alike stuck : τ → υ → Prop}
    {result : Result τ α}
    {result' : Result υ α}
    (both :
      Agree alike stuck (fun e e' => e.unplaced = e'.unplaced) result result') :
    SameOutcome result.1 result'.1 := by
  cases both with
  | ok => rfl
  | error agreed => exact congrArg Except.error agreed

end Formula
