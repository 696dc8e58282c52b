import Formula.Proofs.Grammar.Sound
import Formula.Proofs.Parse.Simulation
import Formula.Proofs.Token.Coverage
import Mathlib

/-!
# Tokens that are put back

A parser puts back one token at a time, and asks for it again in the mode it was
read in.  So it cannot tell a tokenizer from a feed that does the same under
these conditions, whatever that feed does with a token that was put back twice
or is asked for in another mode.

One such feed keeps records of what is put back and asked for again.  They show
that the parser keeps to the conditions.  Behind an expression it has put back
one token, which is the first one that does not belong to the expression.
-/

namespace Formula

namespace Parse

open Result (andThen_eq_ok)
open TokenFeed (advance unget)

/-! ## Ways to parse -/

/-- Something that takes tokens from a feed, whatever feed that is. -/
abbrev Parsing (α : Type) : Type 1 :=
  ∀ (υ : Type) [TokenFeed υ], υ → Result υ α

/-- It begins with an operand, and it cannot tell feeds apart that serve the same
tokens. -/
def Parsing.Traced {α : Type} (parse : Parsing α) : Prop :=
  ∀ {τ υ : Type} [TokenFeed τ] [TokenFeed υ] {lost : τ → Prop}
    {ready : Mode → τ → υ → Prop}
    {stuck : τ → υ → Prop} {agree : Error → Error → Prop},
    FeedSimulation lost ready stuck agree → ∀ s t,
      Tracks lost s (ready .operand s t) (ready .operator) stuck agree
        (parse τ s) (parse υ t)

theorem traced_expression : Parsing.Traced fun _ => expression :=
  fun simulation => simulation.expression_tracks

theorem traced_wholeExpression : Parsing.Traced fun _ => wholeExpression :=
  fun simulation => simulation.wholeExpression_tracks

theorem traced_expressions
    (multiple : Bool) :
    Parsing.Traced fun _ => expressions multiple :=
  fun simulation => simulation.expressions_tracks multiple

/-- Behind an expression a token was read as an operator and put back.  The
recursion is that of the last branches of conditionals. -/
theorem exists_unget_of_conditional {τ : Type} [TokenFeed τ]
    {feed last : τ}
    {tree : Expr}
    (done : (conditional feed).plain = (.ok tree, last)) :
    ∃ before, last = unget (advance .operator before) := by
  rw [plain_conditional_eq] at done
  rcases andThen_eq_ok done with ⟨condition, rest, first, done⟩
  rcases andThen_eq_ok done with ⟨token, after, read, done⟩
  split at done
  case isFalse =>
    rcases reading_eq_ok read with ⟨rfl, _, _⟩
    cases done
    exact ⟨rest, rfl⟩
  case isTrue isQuestion =>
    have le := size_le_of_plain first
    have shorter := size_lt_of_reading read (by simp [isQuestion])
    rcases andThen_eq_ok done with ⟨yes, behindYes, second, done⟩
    have le' := size_le_of_plain second
    rcases andThen_eq_ok done with ⟨_, behindColon, expected, done⟩
    have le'' := size_le_of_expecting expected
    rcases andThen_eq_ok done with ⟨no, _, third, done⟩
    cases done
    exact exists_unget_of_conditional third
termination_by TokenFeed.size feed
decreasing_by omega

end Parse

namespace Tokenizer

open Parse

variable {σ υ α : Type} [CharSource σ] [TokenFeed υ]

/-- A token that was put back no more than once is served, and then nothing is put
back. -/
theorem pending_get
    {tokenizer : Tokenizer σ}
    (atMostOnce : tokenizer.pending ≤ 1)
    (mode : Mode) :
    (tokenizer.get mode.flags).pending = 0 := by
  rcases get_cases mode.get_flags tokenizer with
    ⟨_, same⟩ | ⟨nothing, _, same⟩ | ⟨nothing, same⟩
  · rw [same]
    exact Nat.sub_eq_zero_of_le atMostOnce
  · rw [same, nothing]
  · rw [same, pending_scan, nothing]

/-- Behind a malformed token there is no other. -/
theorem get_of_malformed
    {tokenizer : Tokenizer σ}
    (nothing : tokenizer.pending = 0)
    (malformed : tokenizer.token.kind = .error)
    (flags : Flags) :
    tokenizer.get flags = tokenizer := by
  rw [get, if_neg (not_not_intro nothing), malformed]

/-! ## Feeds with a tokenizer inside -/

/-- A feed does as the tokenizer inside it does, as long as one token at a time
is put back and asked for again in a mode in which it is `known`.  It is known in
the mode it is read in.  Meanwhile something is `kept`. -/
structure Companion
    (inside : υ → Tokenizer σ)
    (kept : υ → Prop)
    (known : Mode → υ → Prop) :
    Prop where
  token : ∀ feed, TokenFeed.token feed = (inside feed).token
  failure : ∀ feed, TokenFeed.failure feed = (inside feed).failure
  advance : ∀ {mode feed}, kept feed →
    (inside feed).pending = 0 ∨ (inside feed).pending = 1 ∧ known mode feed →
      inside (TokenFeed.advance mode feed) = (inside feed).get mode.flags ∧
        kept (TokenFeed.advance mode feed) ∧
          (((inside feed).get mode.flags).token.kind ≠ .error →
            known mode (TokenFeed.advance mode feed))
  unget : ∀ {mode feed}, kept feed → (inside feed).pending = 0 → known mode feed →
    inside (TokenFeed.unget feed) = (inside feed).unget ∧
      kept (TokenFeed.unget feed) ∧ known mode (TokenFeed.unget feed)

namespace Companion

variable {inside : υ → Tokenizer σ} {kept : υ → Prop} {known : Mode → υ → Prop}

/-- The feed can be asked for a token in a mode. -/
structure Ready
    (inside : υ → Tokenizer σ)
    (kept : υ → Prop)
    (known : Mode → υ → Prop)
    (mode : Mode)
    (tokenizer : Tokenizer σ)
    (feed : υ) :
    Prop where
  inside_eq : inside feed = tokenizer
  isKept : kept feed
  back : (inside feed).pending = 0 ∨ (inside feed).pending = 1 ∧ known mode feed

/-- A parser cannot tell the feed from the tokenizer. -/
theorem simulation (companion : Companion inside kept known) :
    FeedSimulation (fun _ => False) (Ready inside kept known)
      (fun tokenizer feed => inside feed = tokenizer ∧ kept feed) Eq where
  lost_advance _ := id
  lost_unget := id
  token {mode tokenizer feed} ready _ := by
    obtain rfl := ready.inside_eq
    rw [companion.token, (companion.advance ready.isKept ready.back).1]
    exact .refl _
  fault {mode tokenizer feed} ready _ _ := by
    obtain rfl := ready.inside_eq
    rcases companion.advance ready.isKept ready.back with ⟨same, isKept, _⟩
    refine ⟨?_, same, isKept⟩
    rw [fault, fault, companion.token, companion.failure, same]
    rfl
  served {mode tokenizer feed} ready _ wellFormed := by
    obtain rfl := ready.inside_eq
    rcases companion.advance ready.isKept ready.back with ⟨same, isKept, isKnown⟩
    have nothing : (inside (TokenFeed.advance mode feed)).pending = 0 := by
      rw [same]
      exact pending_get (by rcases ready.back with back | ⟨back, _⟩ <;> omega) mode
    rcases companion.unget isKept nothing (isKnown wellFormed) with
      ⟨sameBack, isKeptBack, knownBack⟩
    refine ⟨fun _ => ⟨same, isKept, .inl nothing⟩,
      ⟨?_, isKeptBack, .inr ⟨?_, knownBack⟩⟩, ⟨same, isKept⟩, fun expected => ?_⟩
    · rw [sameBack, same]
      rfl
    · rw [sameBack]
      exact congrArg (· + 1) nothing
    · rw [companion.token, same]
      rfl

/-- From the feed comes what comes from the tokenizer inside it, and that is where
it is left. -/
theorem follows
    (companion : Companion inside kept known)
    {parse : Parsing α}
    (traced : parse.Traced)
    {feed : υ}
    (isKept : kept feed)
    (nothingBack : (inside feed).pending = 0) :
    (parse υ feed).1 = (parse (Tokenizer σ) (inside feed)).1 ∧
      inside (parse υ feed).2 = (parse (Tokenizer σ) (inside feed)).2 ∧
        kept (parse υ feed).2 := by
  have agree := (traced companion.simulation (inside feed) feed).agree
    ⟨rfl, isKept, .inl nothingBack⟩ id
  revert agree
  generalize parse υ feed = result
  generalize parse (Tokenizer σ) (inside feed) = result'
  rintro (ready | ⟨rfl, rfl, isKept'⟩)
  · exact ⟨rfl, ready.inside_eq, ready.isKept⟩
  · exact ⟨rfl, rfl, isKept'⟩

end Companion

end Tokenizer

/-! ## Behind an expression -/

namespace Tokenizer

open Parse

variable {σ : Type} [CharSource σ] {left right tokenizer rest : Tokenizer σ}
  {tree : Expr}

/-- Tokenizers in one state, but for what was wrong before the current token. -/
structure SameState (left right : Tokenizer σ) : Prop where
  source_eq : left.source = right.source
  token_eq : left.token = right.token
  pending_eq : left.pending = right.pending

/-- What is scanned depends on the source only. -/
theorem sameState_scan
    (sameSource : left.source = right.source)
    (samePending : left.pending = right.pending)
    (flags : Flags) :
    SameState (left.scan flags) (right.scan flags) := by
  rw [scan, scan, sameSource]
  dsimp only
  split <;> exact ⟨rfl, rfl, samePending⟩

theorem SameState.get
    (same : SameState left right)
    (flags : Flags) :
    SameState (left.get flags) (right.get flags) := by
  have scanned := sameState_scan same.source_eq same.pending_eq flags
  rw [Tokenizer.get, Tokenizer.get, ← same.pending_eq, ← same.token_eq]
  split
  · exact ⟨same.source_eq, rfl, rfl⟩
  split
  · exact same
  · exact scanned
  · split
    · exact scanned
    · exact same

/-- A parser reads the same trees from tokenizers that serve the same next. -/
theorem sameStateSimulation :
    FeedSimulation (fun _ => False)
      (fun mode (left right : Tokenizer σ) =>
        SameState (left.get mode.flags) (right.get mode.flags))
      (fun _ _ => True) (fun _ _ => True) :=
  .of_get (fun mode same => same.get mode.flags)
    (fun same => same.token_eq ▸ .refl _) (fun _ => trivial) fun _ _ => trivial

/-- A malformed token is no expression. -/
theorem wellFormed_of_expression
    (nothingBack : tokenizer.pending = 0)
    (done : expression tokenizer = (.ok tree, rest)) :
    tokenizer.token.kind ≠ .error := by
  intro malformed
  have stays : TokenFeed.advance .operand tokenizer = tokenizer :=
    get_of_malformed nothingBack malformed _
  have fails : Fails (negation tokenizer).plain := by
    rw [plain_negation, reading_of_malformed (by rwa [stays]),
      Result.andThen_error]
    exact ⟨_, _, rfl⟩
  rcases fails.conditional with ⟨e, last, failed⟩
  rw [expression_eq, failed] at done
  cases done

/-- Where a parser stops that has read a tree: the first token behind the tree is
the current one, and it was put back once. -/
structure StopsBehind
    (tokenizer : Tokenizer σ)
    (tree : Expr)
    (rest : Tokenizer σ) : Prop where
  pending_eq : rest.pending = 1
  first : ∃ behind, Grammar.Derives .ternary tokenizer.source tree behind ∧
    rest.token = ((ofSource behind).scan Mode.operator.flags).token ∧
      rest.source = ((ofSource behind).scan Mode.operator.flags).source

theorem stopsBehind_of_expression
    (nothingBack : tokenizer.pending = 0)
    (done : expression tokenizer = (.ok tree, rest)) :
    tokenizer.StopsBehind tree rest := by
  have isFirst : SameState (tokenizer.get Mode.operand.flags)
      ((ofSource tokenizer.source).get Mode.operand.flags) := by
    rw [get_eq_scan Mode.operand.get_flags nothingBack
      (wellFormed_of_expression nothingBack done)]
    have sameSource : tokenizer.source = (ofSource tokenizer.source).source := rfl
    exact sameState_scan sameSource nothingBack Mode.operand.flags
  have agree :=
    (sameStateSimulation.expression_tracks tokenizer
      (ofSource tokenizer.source)).agree isFirst id
  rw [done] at agree
  generalize fromStart : expression (ofSource tokenizer.source) = result at agree
  cases agree with
  | ok same =>
      rcases
        (Grammar.conditional_sound tokenizer.source _
          (stands_ofSource _ _)).derives fromStart with
        ⟨behind, derives, stands⟩
      rcases exists_unget_of_conditional done with ⟨before, rfl⟩
      rw [stands] at same
      have served : (TokenFeed.unget (TokenFeed.advance .operator before)).get
          Mode.operator.flags =
            TokenFeed.advance .operator before := get_unget _ _
      rw [served] at same
      refine ⟨congrArg (· + 1) ?_, behind, derives, same.token_eq, same.source_eq⟩
      exact same.pending_eq.trans (pending_scan _ _)

end Tokenizer

/-! ## Records -/

/-- A tokenizer with records of what is put back and asked for again. -/
structure Recorded (σ : Type) where
  tokenizer : Tokenizer σ
  /-- The flags that the current token was scanned with. -/
  scanned : Option Flags := none
  /-- Of each token that was served again, the flags it was scanned with and
  those of the request, the latest one first. -/
  again : List (Option Flags × Flags) := []
  /-- How often a token was put back before it was served again, at most. -/
  most : Nat := 0

namespace Recorded

variable {σ : Type} [CharSource σ]

instance : TokenFeed (Recorded σ) where
  advance mode feed :=
    { tokenizer := feed.tokenizer.get mode.flags
      scanned :=
        if feed.tokenizer.pending = 0 ∧ feed.tokenizer.token.kind ≠ .error then
          some mode.flags
        else feed.scanned
      again :=
        if feed.tokenizer.pending = 0 then feed.again
        else (feed.scanned, mode.flags) :: feed.again
      most := feed.most }
  unget feed :=
    { feed with
      tokenizer := feed.tokenizer.unget
      most := max feed.most feed.tokenizer.unget.pending }
  token feed := feed.tokenizer.token
  failure feed := feed.tokenizer.failure
  size feed := feed.tokenizer.size
  size_advance_le mode feed := Tokenizer.size_get_le mode.get_flags feed.tokenizer
  size_advance_lt mode _ := Tokenizer.size_get_lt mode.get_flags
  size_unget_le mode _ := Tokenizer.size_unget_get_le mode.get_flags

/-- By the records, no more than one token was put back at a time, and each was
asked for again with the flags it was scanned with. -/
structure InOrder (feed : Recorded σ) : Prop where
  again :
    ∀ scanned request, (scanned, request) ∈ feed.again → scanned = some request
  most : feed.most ≤ 1

/-- What is recorded does not change what is served. -/
theorem companion :
    Tokenizer.Companion Recorded.tokenizer (InOrder (σ := σ))
      fun mode feed => feed.scanned = some mode.flags where
  token _ := rfl
  failure _ := rfl
  advance {mode feed} inOrder back := by
    have again : (TokenFeed.advance mode feed).again =
        if feed.tokenizer.pending = 0 then feed.again
        else (feed.scanned, mode.flags) :: feed.again :=
      rfl
    have scanned : (TokenFeed.advance mode feed).scanned =
        if feed.tokenizer.pending = 0 ∧ feed.tokenizer.token.kind ≠ .error then
          some mode.flags
        else feed.scanned :=
      rfl
    refine ⟨rfl, ⟨?_, inOrder.most⟩, fun wellFormed => ?_⟩
    · rcases back with nothing | ⟨once, known⟩
      · rw [again, if_pos nothing]
        exact inOrder.again
      · rw [again, if_neg (by omega), known]
        rintro scanned request (_ | ⟨_, earlier⟩)
        · rfl
        · exact inOrder.again scanned request earlier
    · rw [scanned]
      split
      case isTrue => rfl
      case isFalse notRead =>
        rcases back with nothing | ⟨_, known⟩
        · have malformed : feed.tokenizer.token.kind = .error :=
            of_not_not fun wellFormed => notRead ⟨nothing, wellFormed⟩
          rw [Tokenizer.get_of_malformed nothing malformed mode.flags]
            at wellFormed
          exact absurd malformed wellFormed
        · exact known
  unget {mode feed} inOrder nothing known := by
    have once : feed.tokenizer.unget.pending = 1 := congrArg (· + 1) nothing
    refine ⟨rfl, ⟨inOrder.again, ?_⟩, known⟩
    show max feed.most feed.tokenizer.unget.pending ≤ 1
    exact Nat.max_le.mpr ⟨inOrder.most, Nat.le_of_eq once⟩

/-- A name is found to be none of the prefix operators.  What is behind it is
found to be no parenthesis, no bracket, none of the operators on thirteen
levels and no question mark. -/
example :
    (Parse.expression
      ({ tokenizer := .ofSource (Reader.ofList ['x']) } :
        Recorded Reader)).2.again =
          List.replicate 15 (some Mode.operator.flags, Mode.operator.flags) ++
            List.replicate 2 (some Mode.operand.flags, Mode.operand.flags) := by
  cbv

end Recorded

end Formula
