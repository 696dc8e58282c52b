import Formula.Error
import Formula.Token.Tokenizer

/-!
# Feeds of tokens

A parser takes its tokens from a feed: it asks for the next token in one of two
modes, and can put the token back that it got last.  The laws say that tokens
run out, which is what makes a parser come to an end.
-/

namespace Formula

/-- What may come next: an operand, or an operator behind an operand. -/
inductive Mode where
  | operand
  | operator
  deriving DecidableEq, Repr

/-- How tokens are read in a mode. -/
def Mode.flags : Mode → Flags
  | operand => .operand
  | operator => .operator

theorem Mode.get_flags (mode : Mode) : mode.flags.get = true := by
  cases mode <;> rfl

/-- Something that serves tokens one by one. -/
class TokenFeed (τ : Type) where
  /-- Goes on to the next token. -/
  advance : Mode → τ → τ
  /-- Puts the current token back. -/
  unget : τ → τ
  /-- The current token. -/
  token : τ → Token
  /-- What is wrong with the current token. -/
  failure : τ → Option ScanFailure
  /-- A bound for the number of tokens that are left. -/
  size : τ → Nat
  size_advance_le : ∀ mode feed, size (advance mode feed) ≤ size feed
  size_advance_lt : ∀ mode feed,
    (token (advance mode feed)).kind ≠ .endOfInput →
      (token (advance mode feed)).kind ≠ .error →
        size (advance mode feed) < size feed
  size_unget_le : ∀ mode feed,
    (token (advance mode feed)).kind ≠ .error →
      size (unget (advance mode feed)) ≤ size feed

instance {σ : Type} [CharSource σ] : TokenFeed (Tokenizer σ) where
  advance mode := Tokenizer.get mode.flags
  unget := Tokenizer.unget
  token := Tokenizer.token
  failure := Tokenizer.failure
  size := Tokenizer.size
  size_advance_le mode := Tokenizer.size_get_le mode.get_flags
  size_advance_lt mode _ := Tokenizer.size_get_lt mode.get_flags
  size_unget_le mode _ := Tokenizer.size_unget_get_le mode.get_flags

end Formula
