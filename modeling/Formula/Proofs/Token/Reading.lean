import Formula.Proofs.Token.Coverage
import Formula.Proofs.Token.State

/-!
# Where a tokenizer reads on

A tokenizer that nothing was put back into, and that is not at a malformed token,
reads a new token when it is asked for one.  Whatever steps have led to it, the
new token is what the scanner finds in front of the text that is left.
-/

namespace Formula

open Text

namespace Tokenizer

/-- Asked for a token with these options, the tokenizer reads a new one. -/
structure ReadsOn {σ : Type}
    (flags : Flags)
    (tokenizer : Tokenizer σ) :
    Prop where
  nothingBack : tokenizer.pending = 0
  wellFormed : tokenizer.token.kind ≠ .error
  asks : flags.get = true ∨ tokenizer.token.kind = .unread

theorem readsOn_ofSource {σ : Type}
    (flags : Flags)
    (source : σ) :
    (ofSource source).ReadsOn flags where
  nothingBack := rfl
  wellFormed := nofun
  asks := .inr rfl

theorem ReadsOn.get_eq_scan {σ : Type} [CharSource σ]
    {flags : Flags}
    {tokenizer : Tokenizer σ}
    (reads : tokenizer.ReadsOn flags) :
    tokenizer.get flags = tokenizer.scan flags := by
  rw [get, if_neg (not_not_intro reads.nothingBack)]
  split
  case h_1 malformed => exact absurd malformed reads.wellFormed
  case h_2 => rfl
  case h_3 _ notUnread => exact if_pos (reads.asks.resolve_right notUnread)

/-- What is left of the text, without the blanks in front of it. -/
def ahead (tokenizer : Tokenizer Cursor) : List Char :=
  tokenizer.source.rest.toList.dropWhile isBlank

theorem ahead_ofString (text : String) :
    (ofSource (Cursor.ofString text)).ahead = text.toList.dropWhile isBlank := by
  rw [ahead, ofSource, (Cursor.models_ofString text).rest_eq, String.toList_ofList]
  rfl

/-- What was scanned last is the current token, and the tokenizer stands behind
it. -/
structure Found
    (scanned : Scanned Reader)
    (tokenizer : Tokenizer Cursor) :
    Prop where
  kind_eq : tokenizer.token.kind = scanned.kind
  text_eq : tokenizer.token.text = String.ofList scanned.text
  literal_eq : tokenizer.token.literal = scanned.literal
  rest_eq : tokenizer.source.rest = String.ofList scanned.source.rest
  failure : ∀ cause, scanned.outcome = .error cause →
    ∃ fault, tokenizer.failure = some fault ∧ fault.cause = cause

theorem found_scan
    {text : String}
    {flags : Flags}
    {tokenizer : Tokenizer Cursor}
    {reader : Tokenizer Reader}
    (same : Alike (Cursor.Models text) tokenizer reader) :
    ∃ past, Found (Scanned.lex flags ⟨past, tokenizer.ahead⟩)
      (tokenizer.scan flags) := by
  have start : (CharSource.readWhile isBlank reader.source).2 =
      ⟨(reader.source.rest.takeWhile isBlank).reverse ++ reader.source.past,
        tokenizer.ahead⟩ := by
    rw [ahead, same.source.rest_eq, String.toList_ofList]
    exact congrArg Prod.snd
      (Reader.readWhile_eq reader.source.past reader.source.rest isBlank)
  have same' := same.scan (Cursor.rewinding text) flags
  have token := same'.token_eq.trans (token_scan flags reader)
  have source := same'.source.rest_eq
  have failure := same'.failure_eq
  rw [start] at token
  rw [source_scan flags reader, start] at source
  refine ⟨(reader.source.rest.takeWhile isBlank).reverse ++ reader.source.past, ?_⟩
  constructor
  case kind_eq => rw [token]
  case text_eq => rw [token]
  case literal_eq => rw [token]
  case rest_eq => exact source
  case failure =>
    intro cause failed
    rw [failure, scan, start]
    dsimp only
    rw [failed]
    exact ⟨_, rfl, rfl⟩

end Tokenizer

/-- Behind any steps over a text, a tokenizer that reads on finds what is ahead of
it. -/
theorem Step.found_get
    (text : String)
    (steps : List Step)
    {flags : Flags}
    (reads : (state steps (.ofSource (Cursor.ofString text))).ReadsOn flags) :
    ∃ past,
      Tokenizer.Found
        (Scanned.lex flags
          ⟨past, (state steps (.ofSource (Cursor.ofString text))).ahead⟩)
        ((state steps (.ofSource (Cursor.ofString text))).get flags) := by
  rw [reads.get_eq_scan]
  exact Tokenizer.found_scan
    (state_alike (Cursor.rewinding text) steps
      (Tokenizer.alike_ofSource (Cursor.models_ofString text)))

end Formula
