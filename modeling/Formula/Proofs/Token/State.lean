import Formula.Proofs.Parse.Interchange
import Formula.Proofs.Parse.Shapes
import Formula.Proofs.Source.Watched
import Formula.Proofs.Token.Numerals

/-!
# States of a tokenizer

A tokenizer can be asked for a token, can take one back, and can be handed to a
parser, in any order.  Whatever both calls of it keep, a parser keeps too, and so
do steps of all kinds one after the other.  This is how the fields of a tokenizer
are known to go together in every state that it gets into.
-/

namespace Formula

namespace Tokenizer

variable {σ τ : Type}

/-- How the current token and the fault go together. -/
structure Coherent (tokenizer : Tokenizer σ) : Prop where
  /-- There is a fault for a malformed token, and for no other. -/
  failed : tokenizer.failure.isSome ↔ tokenizer.token.kind = .error
  /-- The fault is where the token starts. -/
  place :
    ∀ fault, tokenizer.failure = some fault → fault.place = tokenizer.token.place
  /-- Integers and floats carry their number, and no other token carries one. -/
  numbered : Numbered tokenizer.token.kind tokenizer.token.literal
  /-- What looks like a number can be read as one. -/
  readable : ∀ fault, tokenizer.failure = some fault →
    ∀ text, fault.cause ≠ .invalidNumber text

theorem coherent_ofSource (source : σ) : (ofSource source).Coherent where
  failed := ⟨nofun, nofun⟩
  place := nofun
  numbered := .none nofun nofun
  readable := nofun

/-- The error of a malformed token is its fault. -/
theorem Coherent.exists_fault
    [CharSource σ]
    {tokenizer : Tokenizer σ}
    (coherent : tokenizer.Coherent)
    (malformed : tokenizer.token.kind = .error) :
    ∃ failure, Parse.fault tokenizer = .malformed failure := by
  rcases Option.isSome_iff_exists.mp (coherent.failed.mpr malformed) with
    ⟨failure, failed⟩
  have same : TokenFeed.failure tokenizer = some failure := failed
  exact ⟨failure, by rw [Parse.fault, same]⟩

theorem Alike.coherent
    {alike : σ → τ → Prop}
    {left : Tokenizer σ}
    {right : Tokenizer τ}
    (same : Alike alike left right)
    (coherent : right.Coherent) :
    left.Coherent := by
  rcases coherent with ⟨failed, place, numbered, readable⟩
  rw [← same.token_eq, ← same.failure_eq] at failed place
  rw [← same.token_eq] at numbered
  rw [← same.failure_eq] at readable
  exact ⟨failed, place, numbered, readable⟩

/-- Without a fault so far, what is scanned next has one exactly if it is
malformed. -/
theorem coherent_scan
    (flags : Flags)
    {tokenizer : Tokenizer Reader}
    (sound : tokenizer.failure = none) :
    (tokenizer.scan flags).Coherent := by
  rw [scan]
  dsimp only
  split
  case h_1 kind found =>
    rcases Scanned.formed_of_outcome found with ⟨lexeme, formed⟩
    constructor
    · simp [sound, formed.kind_ne.2]
    · simp [sound]
    · exact formed.numbered
    · simp [sound]
  case h_2 cause found =>
    rcases Scanned.lex_clean flags _ cause found with ⟨noNumber, readable⟩
    constructor
    · exact ⟨fun _ => rfl, fun _ => rfl⟩
    · intro fault same
      obtain rfl := Option.some.inj same
      rfl
    · rw [noNumber]
      exact .none (by rintro ⟨⟩) (by rintro ⟨⟩)
    · intro fault same
      obtain rfl := Option.some.inj same
      exact readable

/-! ## What every call keeps -/

section Preserved

variable [CharSource σ] [CharSource τ]

/-- Something that asking for a token and putting one back keep. -/
structure Preserved (kept : Tokenizer σ → Prop) : Prop where
  get : ∀ (flags : Flags) {tokenizer}, kept tokenizer → kept (tokenizer.get flags)
  unget : ∀ {tokenizer}, kept tokenizer → kept tokenizer.unget

/-- A parser makes no other calls. -/
theorem Preserved.feedInvariant
    {kept : Tokenizer σ → Prop}
    (preserved : Preserved kept) :
    Parse.FeedInvariant kept (fun _ => True) (fun _ => True) where
  advance mode _ holds := preserved.get mode.flags holds
  unget holds := preserved.unget holds
  name _ _ _ := trivial
  value _ _ _ := trivial

theorem Coherent.get
    (flags : Flags)
    {tokenizer : Tokenizer Reader}
    (coherent : tokenizer.Coherent) :
    (tokenizer.get flags).Coherent := by
  have sound : tokenizer.token.kind ≠ .error → tokenizer.failure = none := by
    intro wellFormed
    rw [← Option.not_isSome_iff_eq_none, coherent.failed]
    exact wellFormed
  rw [Tokenizer.get]
  split
  · exact ⟨coherent.failed, coherent.place, coherent.numbered, coherent.readable⟩
  split
  · exact coherent
  case h_2 unread => exact coherent_scan flags (sound (by rw [unread]; rintro ⟨⟩))
  case h_3 notError _ =>
    split
    · exact coherent_scan flags (sound notError)
    · exact coherent

theorem preserved_coherent_reader :
    Preserved fun tokenizer : Tokenizer Reader => tokenizer.Coherent where
  get flags := Coherent.get flags
  unget coherent :=
    ⟨coherent.failed, coherent.place, coherent.numbered, coherent.readable⟩

/-- Over a source that stands for a reader, the tokenizer of the reader is
followed. -/
theorem preserved_coherent
    {alike : σ → Reader → Prop}
    (rewinding : Rewinding alike) :
    Preserved fun tokenizer : Tokenizer σ =>
      ∃ reader : Tokenizer Reader, Alike alike tokenizer reader ∧
        reader.Coherent where
  get flags := by
    rintro tokenizer ⟨reader, same, coherent⟩
    exact ⟨reader.get flags, same.get rewinding flags,
      preserved_coherent_reader.get flags coherent⟩
  unget := by
    rintro tokenizer ⟨reader, same, coherent⟩
    exact ⟨reader.unget, same.unget, preserved_coherent_reader.unget coherent⟩

/-- Behind a malformed token nothing is read any more. -/
theorem preserved_halted
    {tokenizer : Tokenizer σ}
    (malformed : tokenizer.token.kind = .error) :
    Preserved fun later =>
      later.token = tokenizer.token ∧ later.failure = tokenizer.failure ∧
        later.source = tokenizer.source where
  get flags := by
    rintro later ⟨sameToken, sameFailure, sameSource⟩
    rw [get, sameToken, malformed]
    split
    · exact ⟨rfl, sameFailure, sameSource⟩
    · exact ⟨sameToken, sameFailure, sameSource⟩
  unget holds := holds

/-! ## What was read -/

/-- The tokenizer over the source itself. -/
def bare (tokenizer : Tokenizer (Watched σ)) : Tokenizer σ :=
  { tokenizer with source := tokenizer.source.bare }

omit [CharSource σ] in
/-- In a new tokenizer nothing was read yet. -/
theorem unread_ofSource
    {alike : σ → Reader → Prop}
    {source : σ}
    {reader : Reader}
    (related : alike source reader) :
    ((ofSource (Watched.of source)).token.kind = .unread ↔
        (ofSource (Watched.of source)).source.asked = false) ∧
      ∃ reader : Tokenizer Reader,
        Alike (Watched.Over alike false) (ofSource (Watched.of source)) reader :=
  ⟨⟨fun _ => rfl, fun _ => rfl⟩, ofSource reader, alike_ofSource ⟨related, nofun⟩⟩

/-- A token that is scanned is one that was read. -/
theorem kind_scan_ne_unread
    {alike : σ → Reader → Prop}
    (rewinding : Rewinding alike)
    (flags : Flags)
    {tokenizer : Tokenizer σ}
    {reader : Tokenizer Reader}
    (same : Alike alike tokenizer reader) :
    (tokenizer.scan flags).token.kind ≠ .unread := by
  rw [(same.scan rewinding flags).token_eq]
  rcases reader.exists_formed flags with malformed | ⟨lexeme, formed⟩
  · rw [malformed]
    nofun
  · exact formed.kind_ne.1

/-- A scan asks for a character before anything else. -/
theorem asked_scan
    {alike : σ → Reader → Prop}
    (rewinding : Rewinding alike)
    (flags : Flags)
    {tokenizer : Tokenizer (Watched σ)}
    {reader : Tokenizer Reader}
    (same : Alike (Watched.Over alike false) tokenizer reader) :
    (tokenizer.scan flags).source.asked = true := by
  have noticed : tokenizer.scan flags =
      scan flags { tokenizer with
        source := { tokenizer.source with asked := true } } := by
    rw [scan, scan, Watched.readWhile_eq]
  have same' : Alike (Watched.Over alike true)
      { tokenizer with source := { tokenizer.source with asked := true } }
      reader :=
    ⟨⟨same.source.1, fun _ => rfl⟩, same.token_eq, same.pending_eq,
      same.failure_eq, same.honoured⟩
  rw [noticed]
  exact (same'.scan (Watched.rewinding_over rewinding true) flags).source.2 rfl

/-- A token was read exactly if something was looked at in the source. -/
theorem preserved_unread
    {alike : σ → Reader → Prop}
    (rewinding : Rewinding alike) :
    Preserved fun tokenizer : Tokenizer (Watched σ) =>
      (tokenizer.token.kind = .unread ↔ tokenizer.source.asked = false) ∧
        ∃ reader : Tokenizer Reader,
          Alike (Watched.Over alike false) tokenizer reader where
  get flags := by
    rintro tokenizer ⟨unread, reader, same⟩
    have watching := Watched.rewinding_over rewinding false
    have scanned : (tokenizer.scan flags).token.kind = .unread ↔
        (tokenizer.scan flags).source.asked = false := by
      rw [asked_scan rewinding flags same]
      exact ⟨fun isUnread =>
        absurd isUnread (kind_scan_ne_unread watching flags same), nofun⟩
    refine ⟨?_, reader.get flags, same.get watching flags⟩
    rw [get]
    split
    · exact unread
    split
    · exact unread
    · exact scanned
    split
    · exact scanned
    · exact unread
  unget := by
    rintro tokenizer ⟨unread, reader, same⟩
    exact ⟨unread, reader.unget, same.unget⟩

end Preserved

end Tokenizer

/-! ## Steps one after the other -/

namespace Step

variable {σ : Type} [CharSource σ]

/-- The tokenizer behind steps that are taken one after the other. -/
def state (steps : List Step) (tokenizer : Tokenizer σ) : Tokenizer σ :=
  steps.foldl (fun tokenizer step => (step.perform tokenizer).2) tokenizer

theorem perform_preserves
    {kept : Tokenizer σ → Prop}
    (preserved : Tokenizer.Preserved kept)
    (step : Step)
    {tokenizer : Tokenizer σ}
    (holds : kept tokenizer) :
    kept (step.perform tokenizer).2 := by
  have invariant := preserved.feedInvariant
  cases step with
  | get flags => exact preserved.get flags holds
  | unget => exact preserved.unget holds
  | expression => exact (invariant.expression_keeps holds).1
  | wholeExpression => exact (invariant.wholeExpression_keeps holds).1
  | expressions multiple => exact (invariant.expressions_keeps multiple holds).1

/-- What both calls keep, steps of all kinds keep.  The induction is on the
steps. -/
theorem state_preserves
    {kept : Tokenizer σ → Prop}
    (preserved : Tokenizer.Preserved kept)
    (steps : List Step)
    {tokenizer : Tokenizer σ}
    (holds : kept tokenizer) :
    kept (state steps tokenizer) := by
  induction steps generalizing tokenizer with
  | nil => exact holds
  | cons step steps ih => exact ih (perform_preserves preserved step holds)

/-- Over related sources the same steps lead to tokenizers that are alike. -/
theorem state_alike
    {τ : Type}
    [CharSource τ]
    {alike : σ → τ → Prop}
    (rewinding : Rewinding alike)
    (steps : List Step)
    {left : Tokenizer σ}
    {right : Tokenizer τ}
    (same : left.Alike alike right) :
    (state steps left).Alike alike (state steps right) := by
  induction steps generalizing left right with
  | nil => exact same
  | cons step steps ih => exact ih (perform_alike rewinding step same).2.2

/-- Watching a source does not change what becomes of the tokenizer over it. -/
theorem bare_state
    {alike : σ → Reader → Prop}
    (rewinding : Rewinding alike)
    {source : σ}
    {reader : Reader}
    (related : alike source reader)
    (steps : List Step) :
    (state steps (.ofSource (Watched.of source))).bare =
      state steps (.ofSource source) := by
  have same := state_alike (Watched.rewinding_over rewinding.diagonal false) steps
    (Tokenizer.alike_ofSource (s := Watched.of source) (t := source)
      ⟨⟨rfl, reader, related⟩, nofun⟩)
  rw [Tokenizer.bare]
  rw [same.source.1.1, same.token_eq, same.pending_eq, same.failure_eq]

/-! ## Tokens that are put back -/

theorem state_replicate_unget
    (count : Nat)
    (tokenizer : Tokenizer σ) :
    state (List.replicate count .unget) tokenizer =
      { tokenizer with pending := tokenizer.pending + count } := by
  induction count generalizing tokenizer with
  | zero => rfl
  | succ count ih =>
      refine (ih tokenizer.unget).trans ?_
      rw [Tokenizer.unget, Nat.add_assoc, Nat.add_comm 1]

/-- What was put back as often as it is asked for is served each time. -/
theorem run_get_of_pending
    (flags : List Flags)
    (tokenizer : Tokenizer σ) :
    (∀ seen ∈ run (flags.map .get)
        { tokenizer with pending := tokenizer.pending + flags.length },
      seen.token = tokenizer.token ∧ seen.failure = tokenizer.failure) ∧
      state (flags.map .get)
        { tokenizer with pending := tokenizer.pending + flags.length } =
          tokenizer := by
  induction flags with
  | nil => exact ⟨List.forall_mem_nil _, rfl⟩
  | cons first flags ih =>
      have back :
          { tokenizer with
          pending := tokenizer.pending + (first :: flags).length } =
            Tokenizer.unget
              { tokenizer with pending := tokenizer.pending + flags.length } :=
        rfl
      rw [back]
      constructor
      · intro seen isSeen
        rw [List.map_cons, run, perform, Tokenizer.get_unget,
          List.mem_cons] at isSeen
        rcases isSeen with rfl | later
        · exact ⟨rfl, rfl⟩
        · exact ih.1 seen later
      · rw [List.map_cons, state, List.foldl_cons, perform, Tokenizer.get_unget]
        exact ih.2

end Step

end Formula
