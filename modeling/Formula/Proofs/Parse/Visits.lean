import Formula.Proofs.Parse.Prefixes

/-!
# Where a parser looks for tokens

A logged tokenizer notes where it reads a token, and in which mode.  Apart from
that it is a tokenizer like any other, so what it notes while a parser uses it is
where the parser looks.  Over a text that goes on in another way from some
position on, the same is read until the parser gets to that position or past it.
-/

namespace Formula

open Text Tokenizer

/-! ## Logged tokenizers -/

/-- Whether the next token that is asked for is read from the source. -/
def Tokenizer.Reads (tokenizer : Tokenizer Reader) : Prop :=
  tokenizer.pending = 0 ∧ tokenizer.token.kind ≠ .error

instance (tokenizer : Tokenizer Reader) : Decidable tokenizer.Reads :=
  inferInstanceAs (Decidable (_ ∧ _))

namespace Tokenizer

variable {tokenizer : Tokenizer Reader} {mode : Mode}

theorem get_of_reads
    (reads : tokenizer.Reads)
    (mode : Mode) :
    tokenizer.get mode.flags = tokenizer.scan mode.flags :=
  get_eq_scan mode.get_flags reads.1 reads.2

/-- A tokenizer stays in its text. -/
theorem whole_get
    (tokenizer : Tokenizer Reader)
    (mode : Mode) :
    (tokenizer.get mode.flags).source.whole = tokenizer.source.whole := by
  rcases get_cases mode.get_flags tokenizer with
    ⟨_, same⟩ | ⟨_, _, same⟩ | ⟨_, same⟩
  · rw [same]
  · rw [same]
  · rcases exists_piece_of_scan mode.flags tokenizer with ⟨_, reads, _⟩
    rw [same, reads.whole_eq]

/-- Nothing goes wrong with a token that is well formed. -/
theorem failure_get
    (wellFormed : (tokenizer.get mode.flags).token.kind ≠ .error) :
    (tokenizer.get mode.flags).failure = tokenizer.failure := by
  rcases get_cases mode.get_flags tokenizer with
    ⟨_, same⟩ | ⟨_, _, same⟩ | ⟨_, same⟩
  · rw [same]
  · rw [same]
  · rw [same] at wellFormed ⊢
    rw [scan] at wellFormed ⊢
    dsimp only at wellFormed ⊢
    split
    · rfl
    · rename_i failed
      simp [failed] at wellFormed

end Tokenizer

/-- A tokenizer, and where it has read a token in which mode, the latest one
first. -/
structure Logged where
  tokenizer : Tokenizer Reader
  visits : List (Mode × Reader) := []

namespace Logged

instance : TokenFeed Logged where
  advance mode feed :=
    { tokenizer := feed.tokenizer.get mode.flags
      visits :=
        if feed.tokenizer.Reads then (mode, feed.tokenizer.source) :: feed.visits
        else feed.visits }
  unget feed := { feed with tokenizer := feed.tokenizer.unget }
  token feed := feed.tokenizer.token
  failure feed := feed.tokenizer.failure
  size feed := feed.tokenizer.size
  size_advance_le mode feed := Tokenizer.size_get_le mode.get_flags feed.tokenizer
  size_advance_lt mode _ := Tokenizer.size_get_lt mode.get_flags
  size_unget_le mode _ := Tokenizer.size_unget_get_le mode.get_flags

/-- What was put back is not read from the source, so that nothing is noted. -/
theorem advance_unget
    (mode : Mode)
    (feed : Logged) :
    TokenFeed.advance mode (TokenFeed.unget feed) = feed := by
  have notRead : ¬ feed.tokenizer.unget.Reads :=
    fun reads => Nat.succ_ne_zero _ reads.1
  rcases feed with ⟨tokenizer, visits⟩
  show Logged.mk (tokenizer.unget.get mode.flags)
    (if tokenizer.unget.Reads then (mode, tokenizer.unget.source) :: visits
      else visits) = _
  rw [get_unget, if_neg notRead]

/-- The log makes no difference to a parser. -/
theorem feedSimulation :
    Parse.FeedSimulation (fun _ => False)
      (fun _ (tokenizer : Tokenizer Reader) (feed : Logged) =>
        feed.tokenizer = tokenizer)
      (fun tokenizer feed => feed.tokenizer = tokenizer) Eq where
  lost_advance _ := id
  lost_unget := id
  token same _ := by
    subst same
    exact .refl _
  fault same _ _ := by
    subst same
    exact ⟨rfl, rfl⟩
  served same _ _ := by
    subst same
    exact ⟨fun _ => rfl, rfl, rfl, fun _ => rfl⟩

end Logged

/-- Where the parser of lists looks for a token in a text, and in which mode. -/
def Parse.visits (multiple : Bool) (text : String) : List (Mode × Reader) :=
  (expressions multiple
    (Logged.mk (ofSource (Reader.ofList text.toList)) [])).2.visits

/-- Equal errors make agreeing results equal. -/
theorem Parse.Agree.fst_eq_of_eq {τ υ α : Type}
    {alike stuck : τ → υ → Prop}
    {result : Result τ α}
    {result' : Result υ α}
    (both : Agree alike stuck Eq result result') :
    result.1 = result'.1 := by
  cases both with
  | ok => rfl
  | error agreed => rw [agreed]

/-- What the parser returns is what it returns without a log. -/
theorem Parse.expressions_logged
    (multiple : Bool)
    (text : String) :
    (expressions multiple
      (Logged.mk (ofSource (Reader.ofList text.toList)) [])).1 =
        (expressions multiple (ofSource (Cursor.ofString text))).1 := by
  rw [expressions_text]
  exact ((Logged.feedSimulation.expressions_tracks multiple _ _).agree rfl
    id).fst_eq_of_eq.symm

/-! ## Up to a position -/

namespace Logged

variable {modes : Mode → Prop} {goal : Reader} {feed : Logged} {mode : Mode}

/-- A token was read at a position in one of some modes. -/
def Reached (modes : Mode → Prop) (goal : Reader) (feed : Logged) : Prop :=
  ∃ mode, modes mode ∧ (mode, goal) ∈ feed.visits

/-- The tokenizer has passed a position without reading a token there, and will
not. -/
structure Passed (modes : Mode → Prop) (goal : Reader) (feed : Logged) : Prop where
  notReached : ¬ feed.Reached modes goal
  gone : feed.tokenizer.Gone goal.rest

theorem reached_advance_iff :
    Reached modes goal (TokenFeed.advance mode feed) ↔
      feed.Reached modes goal ∨
        modes mode ∧ feed.tokenizer.Reads ∧ feed.tokenizer.source = goal := by
  have visits : (TokenFeed.advance mode feed).visits =
      if feed.tokenizer.Reads then (mode, feed.tokenizer.source) :: feed.visits
      else feed.visits :=
    rfl
  rw [Reached, Reached, visits]
  split
  case isTrue reads =>
    simp only [List.mem_cons, Prod.mk.injEq, reads, true_and]
    constructor
    · rintro ⟨mode', isMode, ⟨rfl, rfl⟩ | before⟩
      · exact .inr ⟨isMode, rfl⟩
      · exact .inl ⟨mode', isMode, before⟩
    · rintro (⟨mode', isMode, before⟩ | ⟨isMode, rfl⟩)
      · exact ⟨mode', isMode, .inr before⟩
      · exact ⟨mode, isMode, .inl ⟨rfl, rfl⟩⟩
  case isFalse notReads => simp [notReads]

/-- Behind a position, nothing is read there any more. -/
theorem Passed.advance
    (something : goal.rest ≠ [])
    (passed : feed.Passed modes goal)
    (mode : Mode) :
    Passed modes goal (TokenFeed.advance mode feed) where
  notReached := by
    rw [reached_advance_iff]
    rintro (before | ⟨_, ⟨_, wellFormed⟩, rfl⟩)
    · exact passed.notReached before
    · rcases passed.gone with malformed | beyond | ⟨_, atEnd⟩
      · exact wellFormed malformed
      · exact Nat.lt_irrefl _ beyond
      · exact something atEnd
  gone := (preserved_gone goal.rest).get mode.flags passed.gone

end Logged

/-! ## Over two texts -/

/-- Two tokenizers that have not come to the end of what their texts have in
common. -/
structure Ahead
    (modes : Mode → Prop)
    (before tail tail' : List Char)
    (left : Logged)
    (right : Tokenizer Reader) :
    Prop where
  beside : Beside tail tail' left.tokenizer right
  whole_eq : left.tokenizer.source.whole = before ++ tail
  sound : left.tokenizer.failure = none ∧ right.failure = none
  notReached : ¬ left.Reached modes ⟨before.reverse, tail⟩

namespace Ahead

variable {modes : Mode → Prop} {before tail tail' : List Char} {mode : Mode}
variable {left : Logged} {right : Tokenizer Reader}

theorem ofSource : Ahead modes before tail tail'
    ⟨Tokenizer.ofSource (Reader.ofList (before ++ tail)), []⟩
    (Tokenizer.ofSource (Reader.ofList (before ++ tail'))) where
  beside := ⟨⟨before, rfl, rfl⟩, ⟨_, rfl⟩, rfl⟩
  whole_eq := rfl
  sound := ⟨rfl, rfl⟩
  notReached := nofun

theorem unget (ahead : Ahead modes before tail tail' left right) :
    Ahead modes before tail tail' (TokenFeed.unget left) right.unget :=
  ⟨ahead.beside.unget, ahead.whole_eq, ahead.sound, ahead.notReached⟩

/-- Both tokenizers are in front of what their texts do not have in common. -/
structure AtGoal
    (before tail tail' : List Char)
    (left right : Tokenizer Reader) :
    Prop where
  source_eq : left.source = ⟨before.reverse, tail⟩
  rest_eq : right.source.rest = tail'
  reads : left.Reads
  reads' : right.Reads
  sound : left.failure = none ∧ right.failure = none

/-- They stay there, or they are in front of what is different and one of the
modes is asked for. -/
theorem advance
    (stopped : Stopped tail tail')
    (ahead : Ahead modes before tail tail' left right)
    (here :
      ¬ Logged.Passed modes ⟨before.reverse, tail⟩ (TokenFeed.advance mode left)) :
    Ahead modes before tail tail' (TokenFeed.advance mode left)
      (right.get mode.flags) ∨
        modes mode ∧ AtGoal before tail tail' left.tokenizer right := by
  by_cases reached :
    Logged.Reached modes ⟨before.reverse, tail⟩ (TokenFeed.advance mode left)
  · rcases Logged.reached_advance_iff.mp reached with
      earlier | ⟨isMode, reads, isSource⟩
    · exact absurd earlier ahead.notReached
    rcases ahead.beside with ⟨⟨front, isLeft, isRight⟩, moved, samePending⟩
    rw [isSource] at isLeft
    obtain rfl : front = [] := List.self_eq_append_left.mp isLeft
    refine .inr ⟨isMode, isSource, isRight, reads, ?_, ahead.sound⟩
    exact ⟨samePending ▸ reads.1, moved.kind_eq ▸ reads.2⟩
  · have here' : ¬ (left.tokenizer.get mode.flags).Gone tail :=
      fun gone => here ⟨reached, gone⟩
    have beside := ahead.beside.get stopped here'
    have wellFormed : (left.tokenizer.get mode.flags).token.kind ≠ .error :=
      fun malformed => here' (.inl malformed)
    refine .inl ⟨beside, ?_, ⟨?_, ?_⟩, reached⟩
    · exact (whole_get left.tokenizer mode).trans ahead.whole_eq
    · exact (failure_get wellFormed).trans ahead.sound.1
    · exact (failure_get (beside.moved.kind_eq ▸ wellFormed)).trans ahead.sound.2

end Ahead

/-! ## In front of the first operand -/

section

variable {τ : Type} {α β : Type} {kept : τ → Prop}

theorem Parse.keeps_andThen
    {result : Result τ α}
    {next : α → τ → Result τ β}
    (isKept : kept result.2)
    (more : ∀ value rest, kept rest → kept (next value rest).2) :
    kept (Result.andThen result next).2 := by
  rcases result with ⟨e | value, rest⟩
  · exact isKept
  · exact more value rest isKept

/-- A parser asks for an operand first, so it keeps whatever its feed keeps from
then on. -/
theorem Parse.expressions_keeps [TokenFeed τ]
    {feed : τ}
    (kept : τ → Prop)
    (kept_advance : ∀ {s} mode, kept s → kept (TokenFeed.advance mode s))
    (kept_unget : ∀ {s}, kept s → kept (TokenFeed.unget s))
    (multiple : Bool)
    (first : kept (TokenFeed.advance .operand feed)) :
    kept (expressions multiple feed).2 := by
  -- Related to itself, a parser is one that keeps what gets lost.
  have relation :
      FeedRelation kept (fun _ (s t : τ) => s = t) (fun _ _ => False) Eq
        (fun _ _ => True) (fun _ _ => True) False := by
      refine ⟨congruent_eq, kept_advance, kept_unget, ?_, nofun⟩
      rintro mode s _ rfl _ _
      exact ⟨.refl _, fun _ => ⟨trivial, trivial⟩,
        fun _ => ⟨fun _ => rfl, rfl, trivial, fun _ => trivial⟩⟩
  have ofReading : kept (reading .operand feed).2 := by
    rw [reading]
    exact first
  have ofNegation : kept (negation feed).plain.2 := by
    rw [plain_negation]
    refine keeps_andThen ofReading fun token rest isKept => ?_
    cases negation? token.kind with
    | some op =>
        exact keeps_andThen ((relation.negation_traces rest rest).keeps isKept)
          fun _ _ => id
    | none =>
        let back := TokenFeed.unget rest
        exact (relation.prefixed_traces back back).keeps (kept_unget isKept)
  have ofLevels : ∀ ls, kept (levels ls feed).plain.2 := by
    intro ls
    induction ls with
    | nil => rwa [plain_levels_nil]
    | cons level tighter ih =>
        rw [plain_levels_cons]
        exact keeps_andThen ih fun left rest isKept =>
          (relation.chain_traces level tighter rfl rest rest).keeps isKept
  rw [expressions_eq, expression_eq, plain_conditional_eq]
  refine keeps_andThen
    (keeps_andThen (ofLevels ladder) fun condition rest isKept => ?_)
    fun expr rest isKept => ?_
  · exact (relation.branching_traces rfl rest rest).keeps isKept
  · exact keeps_andThen ((relation.others_traces multiple rest rest).keeps isKept)
      fun _ _ => id

/-- The parser looks for an operand at the front of the text. -/
theorem Parse.visits_front
    (multiple : Bool)
    (text : String) :
    (Mode.operand, Reader.ofList text.toList) ∈ visits multiple text := by
  refine expressions_keeps (fun feed : Logged => (Mode.operand, _) ∈ feed.visits)
    ?_ id multiple ?_
  · intro feed mode isVisited
    show _ ∈ (if feed.tokenizer.Reads then _ :: feed.visits else feed.visits)
    split
    · exact List.mem_cons_of_mem _ isVisited
    · exact isVisited
  · have reads : (ofSource (Reader.ofList text.toList)).Reads := ⟨rfl, nofun⟩
    show _ ∈ (if (ofSource (Reader.ofList text.toList)).Reads then _ :: [] else [])
    rw [if_pos reads]
    exact List.mem_cons_self

end

/-! ## Behind the first operand -/

section

open TokenFeed

variable {τ : Type} [TokenFeed τ] {feed behind : τ}

/-- What is put back after it was read is read again. -/
theorem Parse.reading_of_number
    (isNext : advance .operand feed = behind)
    (isNumber : (token behind).kind = .integer ∨ (token behind).kind = .float) :
    reading .operand feed = (.ok (token behind), behind) := by
  subst isNext
  exact reading_of_wellFormed (ne_error_of_number isNumber)

section

variable {value : Value}
variable (isNext : advance .operand feed = behind)
variable (back : advance .operand (unget behind) = behind)
variable (isNumber : (token behind).kind = .integer ∨ (token behind).kind = .float)
variable (isConstant : Parse.constant? (token behind) = some value)
include isNext back isNumber isConstant

/-- A number is an operand, once it is found to be no operator. -/
theorem Parse.prefixed_of_number :
    (prefixed feed).plain = (.ok (.literal value), behind) := by
  have notPrefix : prefixOp? (token behind).kind = none := by
    rcases isNumber with isNumber | isNumber <;> rw [isNumber] <;> rfl
  have notDefined : (token behind).kind ≠ .defined := by
    rcases isNumber with isNumber | isNumber <;> simp [isNumber]
  rw [plain_prefixed, reading_of_number isNext isNumber, Result.andThen_ok,
    notPrefix]
  dsimp only
  rw [if_neg notDefined, plain_primary, reading_of_number back isNumber,
    Result.andThen_ok, isConstant]

theorem Parse.negation_of_number :
    (negation feed).plain = (.ok (.literal value), behind) := by
  have notNegation : negation? (token behind).kind = none := by
    rcases isNumber with isNumber | isNumber <;> rw [isNumber] <;> rfl
  rw [plain_negation, reading_of_number isNext isNumber, Result.andThen_ok,
    notNegation]
  exact prefixed_of_number back back isNumber isConstant

end

/-- A malformed token behind the first operand is an error on all levels. -/
theorem Parse.levels_of_malformed
    {operand : Expr}
    (first : (negation feed).plain = (.ok operand, behind))
    (malformed : (token (advance .operator behind)).kind = .error)
    (level : Level)
    (tighter : List Level) :
    (levels (level :: tighter) feed).plain =
      (.error (fault (advance .operator behind)), advance .operator behind) := by
  induction tighter generalizing level with
  | nil =>
      rw [plain_levels_cons, plain_levels_nil, first, Result.andThen_ok,
        plain_chain, reading_of_malformed malformed, Result.andThen_error]
  | cons next tighter ih => rw [plain_levels_cons, ih, Result.andThen_error]

end

end Formula
