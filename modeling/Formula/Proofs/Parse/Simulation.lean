import Formula.Proofs.Parse.Relation

/-!
# Simulation of feeds

Two feeds that serve tokens a parser cannot tell apart lead it to the same tree,
or to errors that agree.  A `FeedSimulation` says what has to be kept for that.
A feed with a token put back need only be good for the mode in which the token
was read, since this is the mode in which a parser asks for it again.

The left feed may get lost, behind which nothing is said of the other one any
more.  A parser does not find back: if the feed that it leaves is not lost, then
it never was.
-/

namespace Formula.Parse

open TokenFeed
open Result (andThen)

/--
Feeds that are `ready` for a request in a mode serve tokens of the same meaning
to it, unless the left one gets lost.  What they serve leaves them ready for
anything, and once it is put back they are ready for the same request.  Where a
parser gives up they are `stuck`.
-/
structure FeedSimulation {τ υ : Type} [TokenFeed τ] [TokenFeed υ]
    (lost : τ → Prop)
    (ready : Mode → τ → υ → Prop)
    (stuck : τ → υ → Prop)
    (agree : Error → Error → Prop) :
    Prop where
  lost_advance : ∀ {s} mode, lost s → lost (advance mode s)
  lost_unget : ∀ {s}, lost s → lost (unget s)
  token : ∀ {mode s t}, ready mode s t → ¬ lost (advance mode s) →
    SameMeaning (token (advance mode s)) (token (advance mode t))
  fault : ∀ {mode s t}, ready mode s t → ¬ lost (advance mode s) →
    (TokenFeed.token (advance mode s)).kind = .error →
      agree (fault (advance mode s)) (fault (advance mode t)) ∧
        stuck (advance mode s) (advance mode t)
  served : ∀ {mode s t}, ready mode s t → ¬ lost (advance mode s) →
    (TokenFeed.token (advance mode s)).kind ≠ .error →
      Served ready stuck agree mode (TokenFeed.token (advance mode s))
        (TokenFeed.token (advance mode t)) (advance mode s) (advance mode t)

section

variable {τ υ : Type} {α β : Type}

/-- Equal yields in front of feeds that are alike, or errors that agree. -/
inductive Agree
    (alike : τ → υ → Prop)
    (stuck : τ → υ → Prop)
    (agree : Error → Error → Prop) :
    Result τ α → Result υ α → Prop where
  | ok {value s t} :
      alike s t → Agree alike stuck agree (.ok value, s) (.ok value, t)
  | error {e e' s t} :
      agree e e' → stuck s t → Agree alike stuck agree (.error e, s) (.error e', t)

/-- What a step that begins with the feed `s` keeps: a feed that is lost, and,
unless it gets lost, the agreement with another step. -/
structure Tracks
    (lost : τ → Prop)
    (s : τ)
    (related : Prop)
    (alike : τ → υ → Prop)
    (stuck : τ → υ → Prop)
    (agree : Error → Error → Prop)
    (result : Result τ α)
    (result' : Result υ α) :
    Prop where
  keeps : lost s → lost result.2
  agree : related → ¬ lost result.2 → Agree alike stuck agree result result'

variable {lost : τ → Prop} {related related' : Prop}
  {alike alike' stuck : τ → υ → Prop}
variable {agree : Error → Error → Prop} {s s' : τ} {t : υ}

/-- Related steps agree if nothing is related but what is equal. -/
theorem Tracks.of_traces
    {rel : α → α → Prop}
    {result : Result τ α}
    {result' : Result υ α}
    (both : Traces lost s related rel alike stuck agree False result result')
    (eq_of_rel : ∀ value value', rel value value' → value = value') :
    Tracks lost s related alike stuck agree result result' where
  keeps := both.keeps
  agree isRelated notLost := by
    cases both.relates isRelated notLost with
    | ok same isAlike =>
        obtain rfl := eq_of_rel _ _ same
        exact .ok isAlike
    | error agreed halted => exact .error agreed halted
    | refused impossible => exact impossible.elim

/-- A step may be said to begin earlier. -/
theorem Tracks.of
    {result : Result τ α}
    {result' : Result υ α}
    (both : Tracks lost s' related' alike stuck agree result result')
    (keeps : lost s → lost s')
    (implies : related → related') :
    Tracks lost s related alike stuck agree result result' where
  keeps isLost := both.keeps (keeps isLost)
  agree isRelated := both.agree (implies isRelated)

theorem Tracks.andThen
    {result : Result τ α}
    {result' : Result υ α}
    {next : α → τ → Result τ β}
    {next' : α → υ → Result υ β}
    (both : Tracks lost s related alike stuck agree result result')
    (more : ∀ value s t, result = (.ok value, s) →
      Tracks lost s (alike s t) alike' stuck agree (next value s)
        (next' value t)) :
    Tracks lost s related alike' stuck agree (andThen result next)
      (andThen result' next') where
  keeps isLost := by
    have keeps := both.keeps isLost
    rcases result with ⟨e | value, s'⟩
    · exact keeps
    · exact (more value s' result'.2 rfl).keeps keeps
  agree isRelated notLost := by
    have before : ¬ lost result.2 := by
      intro isLost
      rcases result with ⟨e | value, s'⟩
      · exact notLost isLost
      · exact notLost ((more value s' result'.2 rfl).keeps isLost)
    cases both.agree isRelated before with
    | ok isAlike => exact (more _ _ _ rfl).agree isAlike notLost
    | error agreed halted => exact .error agreed halted

end

namespace FeedSimulation

variable {τ υ : Type} [TokenFeed τ] [TokenFeed υ] {lost : τ → Prop}
variable {ready : Mode → τ → υ → Prop} {stuck : τ → υ → Prop}
variable {agree : Error → Error → Prop}

/-- A simulation is a relation that makes no exception. -/
theorem relation (simulation : FeedSimulation lost ready stuck agree) :
    FeedRelation lost ready (fun _ _ => False) Eq stuck agree False where
  congruent := congruent_eq
  lost_advance := simulation.lost_advance
  lost_unget := simulation.lost_unget
  regular related _ notLost :=
    ⟨simulation.token related notLost, simulation.fault related notLost,
      simulation.served related notLost⟩
  apart impossible := impossible.elim

theorem expecting_tracks
    (simulation : FeedSimulation lost ready stuck agree)
    (kind : TokenKind)
    (expected : Expectation)
    (s : τ)
    (t : υ) :
    Tracks lost s (ready .operator s t)
      (fun s t => ∀ mode, ready mode s t) stuck agree
      (expecting kind expected s) (expecting kind expected t) :=
  .of_traces (simulation.relation.expecting_traces kind expected s t) fun _ _ => id

theorem branching_tracks
    (simulation : FeedSimulation lost ready stuck agree)
    (condition : Expr)
    (s : τ)
    (t : υ) :
    Tracks lost s (ready .operator s t) (ready .operator) stuck agree
      (branching condition s) (branching condition t) :=
  .of_traces (simulation.relation.branching_traces rfl s t) fun _ _ => id

theorem chain_tracks
    (simulation : FeedSimulation lost ready stuck agree)
    (level : Level)
    (tighter : List Level)
    (left : Expr)
    (s : τ)
    (t : υ) :
    Tracks lost s (ready .operator s t) (ready .operator) stuck agree
      (chain level tighter left s).plain (chain level tighter left t).plain :=
  .of_traces (simulation.relation.chain_traces level tighter rfl s t) fun _ _ => id

/-! ## What can be parsed -/

theorem expression_tracks
    (simulation : FeedSimulation lost ready stuck agree)
    (s : τ)
    (t : υ) :
    Tracks lost s (ready .operand s t) (ready .operator) stuck agree
      (expression s) (expression t) :=
  .of_traces (simulation.relation.expression_traces s t) fun _ _ => id

theorem wholeExpression_tracks
    (simulation : FeedSimulation lost ready stuck agree)
    (s : τ)
    (t : υ) :
    Tracks lost s (ready .operand s t) (ready .operator) stuck agree
      (wholeExpression s) (wholeExpression t) :=
  .of_traces (simulation.relation.wholeExpression_traces s t) fun _ _ => id

theorem expressions_tracks
    (simulation : FeedSimulation lost ready stuck agree)
    (multiple : Bool)
    (s : τ)
    (t : υ) :
    Tracks lost s (ready .operand s t) (ready .operator) stuck agree
      (expressions multiple s) (expressions multiple t) :=
  .of_traces (simulation.relation.expressions_traces multiple s t) fun _ _ same =>
    List.forall₂_eq_eq_eq ▸ same

/-! ## Tokenizers -/

/-- Tokenizers serve tokens of the same meaning if what they serve next is alike,
and stays so whenever both are asked for a token.  They need not be alike
themselves. -/
theorem of_get {σ σ' : Type} [CharSource σ] [CharSource σ']
    {alike : Tokenizer σ → Tokenizer σ' → Prop}
    {agree : Error → Error → Prop}
    (get : ∀ {s t} (mode : Mode), alike s t →
      alike (s.get mode.flags) (t.get mode.flags))
    (token : ∀ {s t}, alike s t → SameMeaning s.token t.token)
    (agreed : ∀ {s t}, alike s t → agree (Parse.fault s) (Parse.fault t))
    (unexpected : ∀ {s t}, alike s t → ∀ expected,
      agree (s.token.unexpected expected) (t.token.unexpected expected)) :
    FeedSimulation (fun _ => False)
      (fun mode (s : Tokenizer σ) (t : Tokenizer σ') =>
        alike (s.get mode.flags) (t.get mode.flags))
      (fun _ _ => True) agree where
  lost_advance _ := id
  lost_unget := id
  token served _ := token served
  fault served _ _ := ⟨agreed served, trivial⟩
  served {mode s t} served _ _ := by
    refine ⟨fun next => get next served, ?_, trivial, unexpected served⟩
    show alike ((s.get mode.flags).unget.get mode.flags)
      ((t.get mode.flags).unget.get mode.flags)
    rw [Tokenizer.get_unget, Tokenizer.get_unget]
    exact served

end FeedSimulation

end Formula.Parse
