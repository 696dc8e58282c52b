import Formula.Token.Progress

/-!
# The tokenizer

A tokenizer owns one token, the current one, and reads the next one on demand.
The current token can be put back any number of times, and is then served again
before anything new is read.  A malformed token is the last one: the tokenizer
stays at it.
-/

namespace Formula

open CharSource

/-- A source of characters with the token that was read last. -/
structure Tokenizer (σ : Type) where
  source : σ
  token : Token := {}
  /-- How often the current token is to be served again. -/
  pending : Nat := 0
  /-- What is wrong with the current token. -/
  failure : Option ScanFailure := none

namespace Tokenizer

variable {σ : Type}

/-- The tokenizer at the front of a source, before its first token. -/
def ofSource (source : σ) : Tokenizer σ where
  source

variable [CharSource σ]

/-- Skips blanks and reads a token. -/
def scan (flags : Flags) (tokenizer : Tokenizer σ) : Tokenizer σ :=
  let start := (readWhile Text.isBlank tokenizer.source).2
  let scanned := Scanned.lex flags start
  let token kind : Token :=
    ⟨kind, String.ofList scanned.text, scanned.literal, place start⟩
  match scanned.outcome with
  | .ok kind =>
    { tokenizer with source := scanned.source, token := token kind }
  | .error cause =>
    { tokenizer with
      source := scanned.source
      token := token .error
      failure := some ⟨cause, place start⟩ }

/--
Serves the current token if it was put back, and else reads the next one.
Without the option `get` it stays at the current token once there is one.
-/
def get (flags : Flags) (tokenizer : Tokenizer σ) : Tokenizer σ :=
  if tokenizer.pending ≠ 0 then
    { tokenizer with pending := tokenizer.pending - 1 }
  else
    match tokenizer.token.kind with
    | .error => tokenizer
    | .unread => tokenizer.scan flags
    | _ => if flags.get then tokenizer.scan flags else tokenizer

omit [CharSource σ] in
/-- Puts the current token back. -/
def unget (tokenizer : Tokenizer σ) : Tokenizer σ :=
  { tokenizer with pending := tokenizer.pending + 1 }

/-- A token that was put back is served again, whatever the options. -/
@[simp]
theorem get_unget
    (flags : Flags)
    (tokenizer : Tokenizer σ) :
    tokenizer.unget.get flags = tokenizer := by
  have pending : tokenizer.unget.pending ≠ 0 := Nat.succ_ne_zero _
  rw [get, if_pos pending]
  rfl

/-- How many tokens can still be served, at most, before the end of the input. -/
def size (tokenizer : Tokenizer σ) : Nat :=
  remaining tokenizer.source +
    if tokenizer.token.kind = .endOfInput then 0 else tokenizer.pending

@[simp]
theorem pending_scan
    (flags : Flags)
    (tokenizer : Tokenizer σ) :
    (tokenizer.scan flags).pending = tokenizer.pending := by
  rw [scan]
  simp only
  split <;> rfl

theorem source_scan
    (flags : Flags)
    (tokenizer : Tokenizer σ) :
    (tokenizer.scan flags).source =
      (Scanned.lex flags (readWhile Text.isBlank tokenizer.source).2).source := by
  rw [scan]
  simp only
  split <;> rfl

theorem kind_scan
    (flags : Flags)
    (tokenizer : Tokenizer σ) :
    (tokenizer.scan flags).token.kind =
      match
        (Scanned.lex flags
          (readWhile Text.isBlank tokenizer.source).2).outcome with
      | .ok kind => kind
      | .error _ => .error := by
  rw [scan]
  simp only
  split <;> rfl

theorem remaining_scan_le
    (flags : Flags)
    (tokenizer : Tokenizer σ) :
    remaining (tokenizer.scan flags).source ≤ remaining tokenizer.source := by
  rw [source_scan]
  exact Nat.le_trans (Scanned.remaining_lex_le _ _) (remaining_readWhile_le _ _)

theorem remaining_scan_lt
    {flags : Flags}
    {tokenizer : Tokenizer σ}
    (notEnd : (tokenizer.scan flags).token.kind ≠ .endOfInput) :
    remaining (tokenizer.scan flags).source < remaining tokenizer.source := by
  rw [kind_scan] at notEnd
  rw [source_scan]
  rcases Scanned.lex_progress flags
    (readWhile Text.isBlank tokenizer.source).2 with
    ⟨atEnd, _⟩ | shorter
  · simp [atEnd] at notEnd
  · exact Nat.lt_of_lt_of_le shorter (remaining_readWhile_le _ _)

/-- Either the current token is served again, or nothing was put back and the
tokenizer reads a new token or stays at a malformed one. -/
theorem get_cases
    {flags : Flags}
    (reads : flags.get = true)
    (tokenizer : Tokenizer σ) :
    (tokenizer.pending ≠ 0 ∧
        tokenizer.get flags =
          { tokenizer with pending := tokenizer.pending - 1 }) ∨
      (tokenizer.pending = 0 ∧ tokenizer.token.kind = .error ∧
        tokenizer.get flags = tokenizer) ∨
      (tokenizer.pending = 0 ∧ tokenizer.get flags = tokenizer.scan flags) := by
  rw [get]
  split
  · exact Or.inl ⟨by assumption, rfl⟩
  · rename_i none
    have nothing : tokenizer.pending = 0 := by omega
    split
    · exact Or.inr (Or.inl ⟨nothing, by assumption, rfl⟩)
    · exact Or.inr (Or.inr ⟨nothing, rfl⟩)
    · exact Or.inr (Or.inr ⟨nothing, rfl⟩)

/-- Serving a token leaves no more than before. -/
theorem size_get_le
    {flags : Flags}
    (reads : flags.get = true)
    (tokenizer : Tokenizer σ) :
    (tokenizer.get flags).size ≤ tokenizer.size := by
  rcases get_cases reads tokenizer with ⟨_, same⟩ | ⟨_, _, same⟩ | ⟨none, new⟩
  · rw [same]
    simp only [size]
    split <;> omega
  · exact Nat.le_of_eq (congrArg size same)
  · have bound := remaining_scan_le flags tokenizer
    rw [new]
    simp only [size, pending_scan, none, ite_self]
    omega

/-- A token that is served is used up. -/
theorem size_get_lt
    {flags : Flags}
    (reads : flags.get = true)
    {tokenizer : Tokenizer σ}
    (notEnd : (tokenizer.get flags).token.kind ≠ .endOfInput)
    (notError : (tokenizer.get flags).token.kind ≠ .error) :
    (tokenizer.get flags).size < tokenizer.size := by
  rcases get_cases reads tokenizer with
    ⟨some, same⟩ | ⟨_, error, same⟩ | ⟨none, new⟩
  · rw [same] at notEnd ⊢
    simp only at notEnd
    simp only [size, notEnd, ↓reduceIte]
    omega
  · rw [same] at notError
    exact absurd error notError
  · rw [new] at notEnd ⊢
    have shorter := remaining_scan_lt notEnd
    simp only [size, notEnd, ↓reduceIte, pending_scan, none]
    omega

/-- A token that is served and put back leaves as much as before. -/
theorem size_unget_get_le
    {flags : Flags}
    (reads : flags.get = true)
    {tokenizer : Tokenizer σ}
    (notError : (tokenizer.get flags).token.kind ≠ .error) :
    (tokenizer.get flags).unget.size ≤ tokenizer.size := by
  rcases get_cases reads tokenizer with
    ⟨some, same⟩ | ⟨_, error, same⟩ | ⟨none, new⟩
  · have again : tokenizer.pending - 1 + 1 = tokenizer.pending := by omega
    rw [same]
    simp only [size, unget, again]
    exact Nat.le_refl _
  · rw [same] at notError
    exact absurd error notError
  · rw [new]
    by_cases atEnd : (tokenizer.scan flags).token.kind = .endOfInput
    · have bound := remaining_scan_le flags tokenizer
      simp only [size, unget, atEnd, ↓reduceIte, none]
      omega
    · have shorter := remaining_scan_lt atEnd
      simp only [size, unget, atEnd, ↓reduceIte, pending_scan, none]
      omega

end Tokenizer

end Formula
