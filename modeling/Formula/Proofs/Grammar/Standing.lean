import Formula.Proofs.Grammar.Basic
import Formula.Proofs.Parse.Equations

/-!
# Tokenizers at positions

A parser passes a tokenizer on, and a grammar passes positions on.  A tokenizer
stands at a position for a mode if it serves to a request in that mode what is
at the position, be it newly read or put back before.
-/

namespace Formula

namespace Tokenizer

variable {σ : Type} [CharSource σ] {mode : Mode} {s : σ} {tokenizer : Tokenizer σ}

/-- What the tokenizer serves to a request is what it would read at the
position. -/
def Stands (mode : Mode) (s : σ) (tokenizer : Tokenizer σ) : Prop :=
  tokenizer.get mode.flags = (ofSource s).scan mode.flags

/-- A new tokenizer stands at the front of its source. -/
theorem stands_ofSource
    (mode : Mode)
    (s : σ) :
    (ofSource s).Stands mode s :=
  rfl

theorem failure_scan_ofSource
    {flags : Flags}
    (wellFormed : ((ofSource s).scan flags).token.kind ≠ .error) :
    ((ofSource s).scan flags).failure = none := by
  rw [scan] at wellFormed ⊢
  dsimp only at wellFormed ⊢
  split
  · rfl
  · rename_i failed
    simp [failed] at wellFormed

/-- What is read depends on the source alone. -/
theorem scan_eq_of_source
    (flags : Flags)
    (nothing : tokenizer.pending = 0)
    (sound : tokenizer.failure = none) :
    tokenizer.scan flags = (ofSource tokenizer.source).scan flags := by
  rw [scan, scan]
  simp only [ofSource, nothing, sound]

/-- Behind a token that was read, the tokenizer stands where the token ends. -/
theorem stands_scan
    (wellFormed : ((ofSource s).scan mode.flags).token.kind ≠ .error)
    (next : Mode) :
    ((ofSource s).scan mode.flags).Stands
      next ((ofSource s).scan mode.flags).source := by
  have nothing : ((ofSource s).scan mode.flags).pending = 0 := by
    rw [pending_scan]
    rfl
  have sound := failure_scan_ofSource wellFormed
  rcases get_cases next.get_flags ((ofSource s).scan mode.flags) with
    ⟨pending, _⟩ | ⟨_, malformed, _⟩ | ⟨_, reads⟩
  · exact absurd nothing pending
  · exact absurd malformed wellFormed
  · rw [Stands, reads, scan_eq_of_source next.flags nothing sound]

/-- Once its token is put back, it stands again where the token starts. -/
theorem stands_unget_scan
    (mode : Mode)
    (s : σ) :
    ((ofSource s).scan mode.flags).unget.Stands mode s := by
  rw [Stands, get_unget]

end Tokenizer

namespace Grammar

open Parse Tokenizer

variable {σ : Type} [CharSource σ] {mode : Mode} {s s' : σ}
variable {token : Token} {feed rest : Tokenizer σ}

/-- Reading serves the token at the position. -/
theorem Terminal.reading
    (terminal : Terminal mode s token s')
    (stands : feed.Stands mode s) :
    ∃ rest, Parse.reading mode feed = (.ok token, rest) ∧
      (∀ next, rest.Stands next s') ∧ (TokenFeed.unget rest).Stands mode s := by
  rcases terminal with ⟨rfl, rfl, wellFormed⟩
  refine ⟨(ofSource s).scan mode.flags, ?_, stands_scan wellFormed,
    stands_unget_scan mode s⟩
  have served : TokenFeed.advance mode feed = (ofSource s).scan mode.flags :=
    stands
  rw [reading_of_wellFormed (served ▸ wellFormed), served]
  rfl

/-- What reading serves is the token at the position. -/
theorem terminal_of_reading
    (stands : feed.Stands mode s)
    (read : Parse.reading mode feed = (.ok token, rest)) :
    ∃ s', Terminal mode s token s' ∧
      (∀ next, rest.Stands next s') ∧ (TokenFeed.unget rest).Stands mode s := by
  rcases reading_eq_ok read with ⟨rfl, rfl, wellFormed⟩
  have served : TokenFeed.advance mode feed = (ofSource s).scan mode.flags :=
    stands
  rw [served] at wellFormed ⊢
  exact ⟨_, ⟨rfl, rfl, wellFormed⟩, stands_scan wellFormed,
    stands_unget_scan mode s⟩

theorem Terminal.expecting
    {kind : TokenKind}
    (expected : Expectation)
    (terminal : Terminal .operator s token s')
    (isKind : token.kind = kind)
    (stands : feed.Stands .operator s) :
    ∃ rest, Parse.expecting kind expected feed = (.ok (), rest) ∧
      ∀ next, rest.Stands next s' := by
  rcases terminal.reading stands with ⟨rest, read, standsBehind, _⟩
  refine ⟨rest, ?_, standsBehind⟩
  rw [Parse.expecting, read, Result.andThen_ok, if_pos isKind]

theorem terminal_of_expecting
    {kind : TokenKind}
    {expected : Expectation}
    (stands : feed.Stands .operator s)
    (done : Parse.expecting kind expected feed = (.ok (), rest)) :
    ∃ token s', Terminal .operator s token s' ∧ token.kind = kind ∧
      ∀ next, rest.Stands next s' := by
  rcases Result.andThen_eq_ok done with ⟨token, rest', read, found⟩
  rcases terminal_of_reading stands read with ⟨s', terminal, standsBehind, _⟩
  split at found
  case isTrue isKind =>
    cases found
    exact ⟨token, s', terminal, isKind, standsBehind⟩
  case isFalse => cases found

end Grammar

end Formula
