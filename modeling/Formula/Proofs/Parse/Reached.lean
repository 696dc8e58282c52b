import Formula.Proofs.Parse.Simulation
import Formula.Proofs.Token.State

/-!
# What is reached and what is not

A parser has an answer to a malformed token without a fault, and to a number that
its token does not carry.  No tokenizer gets into a state with such a token: one
that makes up whatever is missing leads the parser to the same results.  With
this, all is said of the states that a tokenizer gets into.
-/

namespace Formula

/-- The token with a made-up number, if it should carry one and does not. -/
def Token.patched (numeral : Numeral) (token : Token) : Token :=
  if token.kind = .integer ∨ token.kind = .float then
    { token with literal := some (token.literal.getD numeral) }
  else
    token

@[simp]
theorem Token.kind_patched
    (numeral : Numeral)
    (token : Token) :
    (token.patched numeral).kind = token.kind := by
  rw [patched]
  split <;> rfl

/-- Where the number is not missing, none is made up. -/
theorem Token.patched_eq
    (numeral : Numeral)
    {token : Token}
    (numbered : Numbered token.kind token.literal) :
    token.patched numeral = token := by
  rw [patched]
  split
  case isTrue isNumber =>
    rcases Option.isSome_iff_exists.mp (numbered.isSome isNumber) with
      ⟨carried, found⟩
    rw [found, Option.getD_some, ← found]
  case isFalse => rfl

/-- A tokenizer with a number for tokens that miss theirs, and a fault for
malformed tokens that have none. -/
structure Patched (σ : Type) where
  numeral : Numeral
  fault : ScanFailure
  tokenizer : Tokenizer σ

namespace Patched

open Parse (Agree FeedSimulation Result)

variable {σ : Type} [CharSource σ]

instance : TokenFeed (Patched σ) where
  advance mode feed := { feed with tokenizer := feed.tokenizer.get mode.flags }
  unget feed := { feed with tokenizer := feed.tokenizer.unget }
  token feed := feed.tokenizer.token.patched feed.numeral
  failure feed := some (feed.tokenizer.failure.getD feed.fault)
  size feed := feed.tokenizer.size
  size_advance_le mode feed := Tokenizer.size_get_le mode.get_flags feed.tokenizer
  size_advance_lt mode feed notEnd notError := by
    rw [Token.kind_patched] at notEnd notError
    exact Tokenizer.size_get_lt mode.get_flags notEnd notError
  size_unget_le mode feed notError := by
    rw [Token.kind_patched] at notError
    exact Tokenizer.size_unget_get_le mode.get_flags notError

/-- The patched tokenizer is the other one, which stands for a coherent reader. -/
def Follows
    (alike : σ → Reader → Prop)
    (numeral : Numeral)
    (fault : ScanFailure)
    (tokenizer : Tokenizer σ)
    (feed : Patched σ) :
    Prop :=
  feed = ⟨numeral, fault, tokenizer⟩ ∧
    ∃ reader : Tokenizer Reader, tokenizer.Alike alike reader ∧ reader.Coherent

variable {alike : σ → Reader → Prop} {numeral : Numeral} {fault : ScanFailure}

/-- In a coherent state there is nothing to patch. -/
theorem feedSimulation
    (rewinding : Rewinding alike)
    (numeral : Numeral)
    (fault : ScanFailure) :
    FeedSimulation (fun _ => False)
      (fun _ => Follows alike numeral fault) (Follows alike numeral fault) Eq := by
  have preserved := Tokenizer.preserved_coherent rewinding
  have coherent : ∀ (mode : Mode) {tokenizer : Tokenizer σ} {feed : Patched σ},
      Follows alike numeral fault tokenizer feed →
        (tokenizer.get mode.flags).Coherent := by
    rintro mode tokenizer feed ⟨_, grounded⟩
    rcases preserved.get mode.flags grounded with ⟨reader, same, coherent⟩
    exact same.coherent coherent
  have served : ∀ (mode : Mode) {tokenizer : Tokenizer σ} {feed : Patched σ},
      Follows alike numeral fault tokenizer feed →
        Follows alike numeral fault (TokenFeed.advance mode tokenizer)
          (TokenFeed.advance mode feed) := by
    rintro mode tokenizer _ ⟨rfl, grounded⟩
    exact ⟨rfl, preserved.get mode.flags grounded⟩
  have sameToken : ∀ (mode : Mode) {tokenizer : Tokenizer σ} {feed : Patched σ},
      Follows alike numeral fault tokenizer feed →
        TokenFeed.token (TokenFeed.advance mode feed) =
          TokenFeed.token (TokenFeed.advance mode tokenizer) := by
    intro mode tokenizer feed follows
    have numbered := (coherent mode follows).numbered
    obtain ⟨rfl, _⟩ := follows
    exact Token.patched_eq numeral numbered
  constructor
  case lost_advance => exact fun _ => id
  case lost_unget => exact id
  case token =>
    intro mode tokenizer feed follows _
    rw [sameToken mode follows]
    exact .refl _
  case fault =>
    intro mode tokenizer feed follows _ malformed
    refine ⟨?_, served mode follows⟩
    have failed := (coherent mode follows).failed.mpr malformed
    obtain ⟨rfl, _⟩ := follows
    rcases Option.isSome_iff_exists.mp failed with ⟨found, failure⟩
    have failure' : TokenFeed.failure
        (TokenFeed.advance mode (Patched.mk numeral fault tokenizer)) =
          some found := by
      show some ((tokenizer.get mode.flags).failure.getD fault) = some found
      rw [failure, Option.getD_some]
    have failure'' : TokenFeed.failure (TokenFeed.advance mode tokenizer) =
        some found := failure
    rw [Parse.fault, Parse.fault, failure', failure'']
  case served =>
    intro mode tokenizer feed follows _ _
    have halted := served mode follows
    refine ⟨fun _ => halted, ?_, halted, fun expected => ?_⟩
    · rcases halted with ⟨same, grounded⟩
      rw [same]
      exact ⟨rfl, preserved.unget grounded⟩
    · rw [sameToken mode follows]

/-- The same result, in front of the same tokenizer. -/
def Same {α : Type}
    (numeral : Numeral)
    (fault : ScanFailure)
    (result : Result (Tokenizer σ) α)
    (patched : Result (Patched σ) α) :
    Prop :=
  patched = (result.1, ⟨numeral, fault, result.2⟩)

omit [CharSource σ] in
theorem same_of_agree {α : Type}
    {result : Result (Tokenizer σ) α}
    {patched : Result (Patched σ) α}
    (both : Agree (Follows alike numeral fault) (Follows alike numeral fault) Eq
      result patched) :
    Same numeral fault result patched := by
  cases both with
  | ok follows => rw [Same, follows.1]
  | error agreed halted => rw [Same, agreed, halted.1]

end Patched

/-- The number or the truth value that the text spells, where a number that
the token misses is made up. -/
def Value.ofPatchedLiteral?
    (numeral : Numeral)
    (text : String) :
    Option Value := do
  let first := (Tokenizer.ofSource (Cursor.ofString text)).get { get := true }
  let value ← (first.token.patched numeral).literalValue?
  let second := first.get { get := true }
  if second.token.kind = .endOfInput then some value else none

/-! ## Every state that is reached -/

namespace Step

variable {σ : Type} [CharSource σ]

/-- What holds of a tokenizer after any steps from the front of a source. -/
structure Lawful (source : σ) (steps : List Step) : Prop where
  /-- Its fault, and the kind and the number of its token, go together. -/
  coherent : (state steps (.ofSource source)).Coherent
  /-- Watching the source changes nothing. -/
  watched : (state steps (.ofSource (Watched.of source))).bare =
    state steps (.ofSource source)
  /-- The token is unread exactly as long as nothing was looked at in the
  source. -/
  unread : (state steps (.ofSource source)).token.kind = .unread ↔
    (state steps (.ofSource (Watched.of source))).source.asked = false
  /-- Behind a malformed token, no step changes the token, the fault or the
  source. -/
  halted :
    (state steps (.ofSource source)).token.kind = .error → ∀ more : List Step,
      (state more (state steps (.ofSource source))).token =
          (state steps (.ofSource source)).token ∧
        (state more (state steps (.ofSource source))).failure =
            (state steps (.ofSource source)).failure ∧
          (state more (state steps (.ofSource source))).source =
            (state steps (.ofSource source)).source
  /-- A token that is put back some times is served as many times. -/
  again : ∀ flags : List Flags,
    (∀ seen ∈ run (flags.map .get)
        (state (List.replicate flags.length .unget)
          (state steps (.ofSource source))),
      seen.token = (state steps (.ofSource source)).token ∧
        seen.failure = (state steps (.ofSource source)).failure) ∧
      state (flags.map .get)
          (state (List.replicate flags.length .unget)
            (state steps (.ofSource source))) =
        state steps (.ofSource source)
  /-- What a parser makes of it does not depend on what a token could be
  missing. -/
  patched : ∀ (numeral : Numeral) (fault : ScanFailure),
    Patched.Same numeral fault
        (Parse.expression (state steps (.ofSource source)))
        (Parse.expression
          (Patched.mk numeral fault (state steps (.ofSource source)))) ∧
      Patched.Same numeral fault
          (Parse.wholeExpression (state steps (.ofSource source)))
          (Parse.wholeExpression
            (Patched.mk numeral fault (state steps (.ofSource source)))) ∧
        ∀ multiple, Patched.Same numeral fault
          (Parse.expressions multiple (state steps (.ofSource source)))
          (Parse.expressions multiple
            (Patched.mk numeral fault (state steps (.ofSource source))))

/-- All of it holds over a source that stands for a reader. -/
theorem lawful_of_rewinding
    {alike : σ → Reader → Prop}
    (rewinding : Rewinding alike)
    {source : σ}
    {reader : Reader}
    (related : alike source reader)
    (steps : List Step) :
    Lawful source steps := by
  have grounded := state_preserves (Tokenizer.preserved_coherent rewinding) steps
    ⟨_, Tokenizer.alike_ofSource related, Tokenizer.coherent_ofSource reader⟩
  have watched := bare_state rewinding related steps
  have unread := state_preserves (Tokenizer.preserved_unread rewinding) steps
    (Tokenizer.unread_ofSource related)
  constructor
  case coherent =>
    rcases grounded with ⟨_, same, coherent⟩
    exact same.coherent coherent
  case watched => exact watched
  case unread =>
    rw [← watched]
    exact unread.1
  case halted =>
    intro malformed more
    exact state_preserves (Tokenizer.preserved_halted malformed) more
      ⟨rfl, rfl, rfl⟩
  case again =>
    intro flags
    rw [state_replicate_unget]
    exact run_get_of_pending flags _
  case patched =>
    intro numeral fault
    have simulation := Patched.feedSimulation rewinding numeral fault
    refine ⟨?_, ?_, fun multiple => ?_⟩
    · exact Patched.same_of_agree
        ((simulation.expression_tracks _ _).agree ⟨rfl, grounded⟩ id)
    · exact Patched.same_of_agree
        ((simulation.wholeExpression_tracks _ _).agree ⟨rfl, grounded⟩ id)
    · exact Patched.same_of_agree
        ((simulation.expressions_tracks multiple _ _).agree ⟨rfl, grounded⟩ id)

/--
Whatever is done with a new tokenizer over a text, in any order: its fault, its
kind and its number go together, it is unread as long as nothing was scanned, it
stays at a malformed token, and it serves again what was put back.  So no parser,
and nobody who reads a literal, ever sees a number or a fault missing.
-/
theorem state_lawful
    (text : String)
    (steps : List Step) :
    Lawful (Cursor.ofString text) steps ∧
      Lawful (CharStream.ofList text.toList) steps ∧
        ∀ numeral, Value.ofPatchedLiteral? numeral text =
          Value.ofLiteral? text := by
  have cursor :=
    lawful_of_rewinding (Cursor.rewinding text) (Cursor.models_ofString text)
  have stream :=
    lawful_of_rewinding CharStream.rewinding (CharStream.models_ofList text.toList)
  refine ⟨cursor steps, stream steps, fun numeral => ?_⟩
  have first := (cursor [.get { get := true }]).coherent.numbered
  have same : Token.patched numeral
      ((Tokenizer.ofSource (Cursor.ofString text)).get { get := true }).token =
        ((Tokenizer.ofSource (Cursor.ofString text)).get { get := true }).token :=
    Token.patched_eq numeral first
  rw [Value.ofPatchedLiteral?, Value.ofLiteral?, same]

end Step

end Formula
