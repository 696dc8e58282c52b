import Formula.Proofs.Parse.Pushback

/-!
# Reading tokens twice

A token that was put back need not be kept.  If it is read again from where
it starts, in the mode in which it is asked for now, it is the same token,
since a parser asks for it in the mode it was read in.  So parsing without a
memory for tokens is no different: it comes to the same trees, the same
errors and the same positions.
-/

namespace Formula

open CharSource

namespace Tokenizer

variable {σ : Type} [CharSource σ]

/-! ## From where a token starts -/

/-- Reads the token that starts at a position of the source. -/
def readAt (flags : Flags) (start : σ) (tokenizer : Tokenizer σ) : Tokenizer σ :=
  let scanned := Scanned.lex flags start
  let token kind : Token :=
    ⟨kind, String.ofList scanned.text, scanned.literal, place start⟩
  match scanned.outcome with
  | .ok kind => { tokenizer with source := scanned.source, token := token kind }
  | .error cause =>
    { tokenizer with
      source := scanned.source
      token := token .error
      failure := some ⟨cause, place start⟩ }

/-- A scan reads the token that starts behind the blanks. -/
theorem scan_eq_readAt
    (flags : Flags)
    (tokenizer : Tokenizer σ) :
    tokenizer.scan flags =
      tokenizer.readAt flags (readWhile Text.isBlank tokenizer.source).2 :=
  rfl

variable (flags : Flags) (start : σ) (tokenizer : Tokenizer σ)

theorem source_readAt :
    (tokenizer.readAt flags start).source = (Scanned.lex flags start).source := by
  rw [readAt]
  dsimp only
  split <;> rfl

theorem remaining_readAt_le :
    remaining (tokenizer.readAt flags start).source ≤ remaining start := by
  rw [source_readAt]
  exact Scanned.remaining_lex_le flags start

variable {flags start tokenizer}

theorem remaining_readAt_lt
    (notEnd : (tokenizer.readAt flags start).token.kind ≠ .endOfInput) :
    remaining (tokenizer.readAt flags start).source < remaining start := by
  rw [source_readAt]
  rcases Scanned.lex_progress flags start with ⟨atEnd, _⟩ | shorter
  · rw [readAt, atEnd] at notEnd
    exact absurd rfl notEnd
  · exact shorter

/-- How often the token was put back makes no difference to what is read. -/
theorem readAt_pending (count : Nat) :
    readAt flags start { tokenizer with pending := count } =
      { tokenizer.readAt flags start with pending := count } := by
  rw [readAt, readAt]
  dsimp only
  split <;> rfl

/-- What is read twice is the same each time. -/
theorem readAt_readAt :
    (tokenizer.readAt flags start).readAt flags start =
      tokenizer.readAt flags start := by
  rw [readAt.eq_def flags start (tokenizer.readAt flags start)]
  dsimp only
  split
  case h_1 kind found => simp only [readAt, found]
  case h_2 cause found => simp only [readAt, found]

end Tokenizer

/-! ## Feeds without a memory for tokens -/

/-- A tokenizer that reads a token again where others serve what was put back. -/
structure Rescanned (σ : Type) where
  tokenizer : Tokenizer σ
  /-- Where the current token starts. -/
  start : σ

namespace Rescanned

variable {σ : Type} [CharSource σ]

/-- Goes on to the next token, which is the current one again if it was put
back. -/
def advance (mode : Mode) (feed : Rescanned σ) : Rescanned σ :=
  if feed.tokenizer.pending ≠ 0 then
    { feed with
      tokenizer :=
        { feed.tokenizer.readAt mode.flags feed.start with
          pending := feed.tokenizer.pending - 1 } }
  else if feed.tokenizer.token.kind = .error then feed
  else
    { tokenizer := feed.tokenizer.scan mode.flags
      start := (readWhile Text.isBlank feed.tokenizer.source).2 }

/-- How much is left to read, and how often the same is read again. -/
def size (feed : Rescanned σ) : Nat :=
  if feed.tokenizer.pending = 0 then remaining feed.tokenizer.source
  else remaining feed.start + (feed.tokenizer.pending - 1)

/-- A token is read again, or the feed stays at a malformed one, or a new one is
read. -/
theorem advance_cases
    (mode : Mode)
    (feed : Rescanned σ) :
    (feed.tokenizer.pending ≠ 0 ∧
        feed.advance mode =
          ⟨{ feed.tokenizer.readAt mode.flags feed.start with
              pending := feed.tokenizer.pending - 1 }, feed.start⟩) ∨
      (feed.tokenizer.pending = 0 ∧ feed.tokenizer.token.kind = .error ∧
        feed.advance mode = feed) ∨
      (feed.tokenizer.pending = 0 ∧ feed.tokenizer.token.kind ≠ .error ∧
        feed.advance mode =
          ⟨feed.tokenizer.scan mode.flags,
            (readWhile Text.isBlank feed.tokenizer.source).2⟩) := by
  rw [advance]
  split
  · exact .inl ⟨‹_›, rfl⟩
  · have nothing : feed.tokenizer.pending = 0 := by omega
    split
    · exact .inr (.inl ⟨nothing, ‹_›, rfl⟩)
    · exact .inr (.inr ⟨nothing, ‹_›, rfl⟩)

theorem size_of_nothing
    {feed : Rescanned σ}
    (nothing : feed.tokenizer.pending = 0) :
    feed.size = remaining feed.tokenizer.source :=
  if_pos nothing

theorem size_of_back
    {feed : Rescanned σ}
    (back : feed.tokenizer.pending ≠ 0) :
    feed.size = remaining feed.start + (feed.tokenizer.pending - 1) :=
  if_neg back

theorem size_advance_le
    (mode : Mode)
    (feed : Rescanned σ) :
    (feed.advance mode).size ≤ feed.size := by
  rcases advance_cases mode feed with
    ⟨back, same⟩ | ⟨_, _, same⟩ | ⟨nothing, _, same⟩
  · have bound :=
      Tokenizer.remaining_readAt_le mode.flags feed.start feed.tokenizer
    rw [same, size_of_back back, size]
    dsimp only
    split <;> omega
  · exact Nat.le_of_eq (congrArg size same)
  · have bound := Tokenizer.remaining_scan_le mode.flags feed.tokenizer
    rw [same, size_of_nothing nothing, size_of_nothing]
    · exact bound
    · rw [Tokenizer.pending_scan, nothing]

theorem size_advance_lt
    {mode : Mode}
    {feed : Rescanned σ}
    (notEnd : (feed.advance mode).tokenizer.token.kind ≠ .endOfInput)
    (wellFormed : (feed.advance mode).tokenizer.token.kind ≠ .error) :
    (feed.advance mode).size < feed.size := by
  rcases advance_cases mode feed with
    ⟨back, same⟩ | ⟨_, malformed, same⟩ | ⟨nothing, _, same⟩
  · rw [same] at notEnd
    have shorter := Tokenizer.remaining_readAt_lt notEnd
    rw [same, size_of_back back, size]
    dsimp only
    split <;> omega
  · rw [same] at wellFormed
    exact absurd malformed wellFormed
  · rw [same] at notEnd
    have shorter := Tokenizer.remaining_scan_lt notEnd
    rw [same, size_of_nothing nothing, size_of_nothing]
    · exact shorter
    · rw [Tokenizer.pending_scan, nothing]

/-- Puts the current token back. -/
def unget (feed : Rescanned σ) : Rescanned σ :=
  { feed with tokenizer := feed.tokenizer.unget }

theorem size_unget (feed : Rescanned σ) :
    feed.unget.size = remaining feed.start + feed.tokenizer.pending :=
  size_of_back (Nat.succ_ne_zero _)

theorem size_unget_advance_le
    {mode : Mode}
    {feed : Rescanned σ}
    (wellFormed : (feed.advance mode).tokenizer.token.kind ≠ .error) :
    (feed.advance mode).unget.size ≤ feed.size := by
  rcases advance_cases mode feed with
    ⟨back, same⟩ | ⟨_, malformed, same⟩ | ⟨nothing, _, same⟩
  · rw [same, size_of_back back]
    exact Nat.le_of_eq (size_unget _)
  · rw [same] at wellFormed
    exact absurd malformed wellFormed
  · rw [same, size_of_nothing nothing, size_unget, Tokenizer.pending_scan, nothing]
    exact remaining_readWhile_le _ _

instance : TokenFeed (Rescanned σ) where
  advance := advance
  unget := unget
  token feed := feed.tokenizer.token
  failure feed := feed.tokenizer.failure
  size := size
  size_advance_le := size_advance_le
  size_advance_lt _ _ := size_advance_lt
  size_unget_le _ _ := size_unget_advance_le

/-- A token that is known in a mode is the same when it is read again in that
mode. -/
theorem companion :
    Tokenizer.Companion Rescanned.tokenizer (fun _ : Rescanned σ => True)
      fun mode feed =>
        feed.tokenizer.readAt mode.flags feed.start = feed.tokenizer where
  token _ := rfl
  failure _ := rfl
  advance {mode feed} _ back := by
    show (feed.advance mode).tokenizer = _ ∧ True ∧
      (_ →
        (feed.advance mode).tokenizer.readAt mode.flags (feed.advance mode).start =
          (feed.advance mode).tokenizer)
    rcases advance_cases mode feed with ⟨some, same⟩ | ⟨nothing, malformed, same⟩ |
      ⟨nothing, wellFormed, same⟩
    · have known := (back.resolve_left some).2
      rw [same, known, Tokenizer.get, if_pos some]
      refine ⟨rfl, trivial, fun _ => ?_⟩
      rw [Tokenizer.readAt_pending, known]
    · rw [same, Tokenizer.get_of_malformed nothing malformed]
      exact ⟨rfl, trivial, fun wellFormed => absurd malformed wellFormed⟩
    · rw [same, Tokenizer.get_eq_scan mode.get_flags nothing wellFormed,
        Tokenizer.scan_eq_readAt]
      exact ⟨rfl, trivial, fun _ => Tokenizer.readAt_readAt⟩
  unget {mode feed} _ _ known := by
    refine ⟨rfl, trivial, ?_⟩
    show feed.tokenizer.unget.readAt mode.flags feed.start = feed.tokenizer.unget
    rw [Tokenizer.unget, Tokenizer.readAt_pending, known]

end Rescanned

/-! ## Parsing with and without a memory for tokens -/

namespace Parse

variable {σ α : Type} [CharSource σ] {tokenizer : Tokenizer σ}

/-- A parser does not depend on tokens being kept. -/
structure Transparent (parse : Parsing α) (tokenizer : Tokenizer σ) : Prop where
  /-- The records that are kept are those of this very run. -/
  recorded :
    (parse (Recorded σ) { tokenizer }).1 = (parse (Tokenizer σ) tokenizer).1 ∧
      (parse (Recorded σ) { tokenizer }).2.tokenizer =
        (parse (Tokenizer σ) tokenizer).2
  /-- One token at a time is put back, and is asked for with the flags it was
  scanned with. -/
  inOrder : (parse (Recorded σ) { tokenizer }).2.InOrder
  /-- Nothing changes when every token that is asked for again is scanned again,
  with the flags of the new request.  Tokens from before the run are never asked
  for, wherever they started. -/
  rescanned : ∀ start,
    (parse (Rescanned σ) { tokenizer, start }).1 =
        (parse (Tokenizer σ) tokenizer).1 ∧
      (parse (Rescanned σ) { tokenizer, start }).2.tokenizer =
        (parse (Tokenizer σ) tokenizer).2

theorem Transparent.of_traced
    {parse : Parsing α}
    (traced : parse.Traced)
    (nothingBack : tokenizer.pending = 0) :
    Transparent parse tokenizer := by
  have noRecords : Recorded.InOrder { tokenizer } := ⟨nofun, Nat.zero_le 1⟩
  have recorded := Recorded.companion.follows traced noRecords nothingBack
  refine ⟨⟨recorded.1, recorded.2.1⟩, recorded.2.2, fun start => ?_⟩
  have nothingBack' : (Rescanned.mk tokenizer start).tokenizer.pending = 0 :=
    nothingBack
  have rescanned := Rescanned.companion.follows traced trivial nothingBack'
  exact ⟨rescanned.1, rescanned.2.1⟩

/-- Unless a token was put back before, no parser depends on tokens being kept.
Behind an expression, the first token that does not belong to it is put back,
once. -/
theorem pushback_transparent
    (tokenizer : Tokenizer σ)
    (nothingBack : tokenizer.pending = 0) :
    Transparent (fun _ => expression) tokenizer ∧
      Transparent (fun _ => wholeExpression) tokenizer ∧
        (∀ multiple, Transparent (fun _ => expressions multiple) tokenizer) ∧
          ∀ tree rest, expression tokenizer = (.ok tree, rest) →
            tokenizer.StopsBehind tree rest :=
  ⟨.of_traced traced_expression nothingBack,
    .of_traced traced_wholeExpression nothingBack,
    fun multiple => .of_traced (traced_expressions multiple) nothingBack,
    fun _ _ => Tokenizer.stopsBehind_of_expression nothingBack⟩

/-- Behind a parenthesis that was read, a sign is found behind a name.  It is put
back and asked for again on every level, and it never becomes part of the
number. -/
theorem pushback_transparent_minus :
    let start :=
      (Tokenizer.ofSource (Cursor.ofString "(x -1)")).get Mode.operand.flags
    start.pending = 0 ∧ Transparent (fun _ => expression) start ∧
      ∃ rest, expression start =
          (.ok (.binary .sub (.var "x" []) (.literal (.int 1))), rest) ∧
        start.StopsBehind
          (.binary .sub (.var "x" []) (.literal (.int 1))) rest := by
  have nothingBack :
      ((Tokenizer.ofSource (Cursor.ofString "(x -1)")).get
        Mode.operand.flags).pending = 0 := by
    decide +kernel
  have read :
      (expression ((Tokenizer.ofSource (Cursor.ofString "(x -1)")).get
        Mode.operand.flags)).1 =
          .ok (.binary .sub (.var "x" []) (.literal (.int 1))) := by
    cbv
  have transparent := pushback_transparent _ nothingBack
  exact ⟨nothingBack, transparent.1, _, Prod.ext read rfl,
    transparent.2.2.2 _ _ (Prod.ext read rfl)⟩

end Parse

end Formula
