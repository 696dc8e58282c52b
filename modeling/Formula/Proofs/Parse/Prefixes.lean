import Formula.Proofs.Grammar.Locality
import Formula.Proofs.Token.State

/-!
# Texts with a common prefix

A parser that gives up at some token has seen no more of the text than up to the
end of that token, and a stop behind it would not have changed what it saw.  So
it gives up on every text that goes on from there, behind a stop, in another way.
-/

namespace Formula

open Text

namespace Tokenizer

/-- A tokenizer that has read into the text `behind`, or that is at the end of
the input or at a malformed token. -/
def Gone (behind : List Char) (tokenizer : Tokenizer Reader) : Prop :=
  tokenizer.token.kind = .error ∨ tokenizer.source.rest.length < behind.length ∨
    tokenizer.token.kind = .endOfInput ∧ tokenizer.source.rest = []

/-- Two tokenizers that have read the same, over texts that go on in the same way
up to where the one text or the other is behind. -/
structure Beside
    (behind behind' : List Char)
    (left right : Tokenizer Reader) :
    Prop where
  exists_front : ∃ front, left.source.rest = front ++ behind ∧
    right.source.rest = front ++ behind'
  moved : Grammar.Moved left.token right.token
  pending_eq : left.pending = right.pending

section

variable {behind behind' : List Char} {left right : Tokenizer Reader}
  {flags : Flags}

theorem Gone.scan
    (gone : left.Gone behind)
    (wellFormed : left.token.kind ≠ .error)
    (flags : Flags) :
    (left.scan flags).Gone behind := by
  rcases exists_piece_of_scan flags left with ⟨piece, reads, _⟩
  rcases gone with malformed | beyond | ⟨_, atEnd⟩
  · exact absurd malformed wellFormed
  · have shorter := congrArg List.length reads.rest_eq
    rw [List.length_append] at shorter
    exact .inr (.inl (by omega))
  · have noMore := reads.rest_eq
    rw [atEnd] at noMore
    refine .inr (.inr ⟨?_, (List.append_eq_nil_iff.mp noMore.symm).2⟩)
    rw [kind_scan_eq_endOfInput_iff, atEnd]
    exact List.forall_mem_nil _

/-- Once it is gone, a tokenizer does not come back. -/
theorem preserved_gone (behind : List Char) : Preserved (Gone behind) where
  get flags := by
    intro tokenizer gone
    rw [get]
    split
    · exact gone
    split
    · exact gone
    case h_2 unread => exact gone.scan (by rw [unread]; rintro ⟨⟩) flags
    case h_3 notError _ =>
      split
      · exact gone.scan notError flags
      · exact gone
  unget gone := gone

/-- What is scanned is a terminal, unless it is malformed. -/
theorem terminal_scan
    {mode : Mode}
    {tokenizer : Tokenizer Reader}
    (wellFormed : (tokenizer.scan mode.flags).token.kind ≠ .error) :
    Grammar.Terminal mode tokenizer.source (tokenizer.scan mode.flags).token
      (tokenizer.scan mode.flags).source where
  token_eq := by rw [token_scan, token_scan, ofSource]
  source_eq := by rw [source_scan, source_scan, ofSource]
  wellFormed := wellFormed

variable {mode : Mode}

/-- Up to the texts where they differ, both tokenizers read the same token. -/
theorem Beside.scan
    (stopped : Stopped behind behind')
    (beside : Beside behind behind' left right)
    (here : ¬ (left.scan mode.flags).Gone behind) :
    Beside behind behind' (left.scan mode.flags) (right.scan mode.flags) := by
  rcases beside with ⟨⟨front, isLeft, isRight⟩, _, pending_eq⟩
  have wellFormed : (left.scan mode.flags).token.kind ≠ .error :=
    fun malformed => here (.inl malformed)
  have within : behind.length ≤ (left.scan mode.flags).source.rest.length :=
    Nat.le_of_not_lt fun beyond => here (.inr (.inl beyond))
  have notEnd : (left.scan mode.flags).token.kind ≠ .endOfInput := by
    rcases exists_piece_of_scan mode.flags left with ⟨piece, _, fits⟩
    exact fun isEnd => here (.inr (.inr ⟨isEnd, fits.atEnd isEnd⟩))
  rcases (terminal_scan wellFormed).movable notEnd with ⟨piece, reads, moves⟩
  have whole := isLeft.symm.trans reads.rest_eq
  -- The token ends in front of `behind`, so it lies in
  -- what both texts have in common.
  have isPrefix : piece <+: front := by
    refine List.prefix_of_prefix_length_le ⟨_, rfl⟩ ⟨_, whole⟩ ?_
    have sameLength := congrArg List.length whole
    simp only [List.length_append] at sameLength
    omega
  rcases isPrefix with ⟨front', rfl⟩
  rw [List.append_assoc, List.append_cancel_left_eq] at whole
  rcases moves (front' ++ behind') (whole ▸ stopped.append front')
    right.source.past with
    ⟨token, terminal, moved⟩
  have isSource : (⟨right.source.past, piece ++ (front' ++ behind')⟩ : Reader) =
      right.source := by
    rw [← List.append_assoc, ← isRight]
  rw [isSource] at terminal
  have sameToken : (right.scan mode.flags).token = token := by
    rw [← terminal.token_eq, token_scan, token_scan, ofSource]
  have sameSource := terminal.source_eq
  rw [source_scan, ofSource, ← source_scan mode.flags right] at sameSource
  constructor
  case exists_front => exact ⟨front', whole.symm, by rw [sameSource]⟩
  case moved => rwa [sameToken]
  case pending_eq => rw [pending_scan, pending_scan, pending_eq]

theorem Beside.get
    (stopped : Stopped behind behind')
    (beside : Beside behind behind' left right)
    (here : ¬ (left.get mode.flags).Gone behind) :
    Beside behind behind' (left.get mode.flags) (right.get mode.flags) := by
  have samePending := beside.pending_eq
  by_cases nothingBack : left.pending = 0
  · have wellFormed : left.token.kind ≠ .error := by
      intro malformed
      rw [Tokenizer.get, if_neg (not_not_intro nothingBack), malformed] at here
      exact here (.inl malformed)
    rw [get_eq_scan mode.get_flags nothingBack wellFormed] at here ⊢
    rw [get_eq_scan mode.get_flags (samePending ▸ nothingBack)
      (beside.moved.kind_eq ▸ wellFormed)]
    exact beside.scan stopped here
  · rw [Tokenizer.get, Tokenizer.get, if_pos nothingBack,
      if_pos (samePending ▸ nothingBack)]
    exact ⟨beside.exists_front, beside.moved, congrArg (· - 1) samePending⟩

theorem Beside.unget (beside : Beside behind behind' left right) :
    Beside behind behind' left.unget right.unget :=
  ⟨beside.exists_front, beside.moved, congrArg (· + 1) beside.pending_eq⟩

/-- A token means the same wherever it stands. -/
theorem sameMeaning_of_moved
    {token token' : Token}
    (moved : Grammar.Moved token token') :
    Parse.SameMeaning token token' := by
  rcases moved with ⟨place, rfl⟩
  exact ⟨rfl, rfl, rfl⟩

/-- A parser cannot tell the two texts apart, until it has read into the one that
is behind. -/
theorem besideSimulation (stops : Stops behind') :
    Parse.FeedSimulation (Gone behind) (fun _ => Beside behind behind')
      (fun _ _ => True) (fun _ _ => True) := by
  have stopped : Stopped behind behind' := ⟨[], behind, behind', rfl, rfl, stops⟩
  constructor
  case lost_advance => exact fun mode => (preserved_gone behind).get mode.flags
  case lost_unget => exact (preserved_gone behind).unget
  case token =>
      exact fun beside here => sameMeaning_of_moved (beside.get stopped here).moved
  case fault => exact fun _ _ _ => ⟨trivial, trivial⟩
  case served =>
    intro mode left right beside here _
    have served := beside.get stopped here
    exact ⟨fun _ => served, served.unget, trivial, fun _ => trivial⟩

end

end Tokenizer

/-- Where a parser gives up before it has read into what is behind, it gives up
on every other text behind a stop. -/
theorem Parse.wholeExpression_ne_ok_of_stops
    {front behind behind' : List Char}
    {e : Error}
    {rest : Tokenizer Reader}
    (failed :
      wholeExpression (Tokenizer.ofSource (Reader.ofList (front ++ behind))) =
        (.error e, rest))
    (here : ¬ rest.Gone behind)
    (stops : Stops behind')
    (t : Expr) :
    (wholeExpression (Tokenizer.ofSource (Reader.ofList (front ++ behind')))).1 ≠
      .ok t := by
  have beside : Tokenizer.Beside behind behind'
      (Tokenizer.ofSource (Reader.ofList (front ++ behind)))
      (Tokenizer.ofSource (Reader.ofList (front ++ behind'))) :=
    ⟨⟨front, rfl, rfl⟩, ⟨_, rfl⟩, rfl⟩
  have tracks :=
    ((Tokenizer.besideSimulation stops).wholeExpression_tracks _ _).agree beside
  rw [failed] at tracks
  have both := tracks here
  generalize wholeExpression
    (Tokenizer.ofSource (Reader.ofList (front ++ behind'))) = other at both
  cases both with
  | error => nofun

end Formula
