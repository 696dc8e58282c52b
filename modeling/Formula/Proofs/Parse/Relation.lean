import Formula.Proofs.Parse.Equations
import Mathlib.Data.List.Forall2

/-!
# Relations between two runs of the parser

Two feeds lead a parser to related trees if they serve tokens that it cannot tell
apart.  A feed with a token put back need only be good for the mode in which the
token was read, since this is the mode in which a parser asks for it again.

There is one exception.  Where an operand may come, the left feed may have a
number with a sign glued to it while the right one has the sign as a token of
its own.  Then it must be shown that the operands they go on to are related, and
this is passed on to the trees.

The left feed may get lost, behind which nothing is said of the other one any
more.  A parser does not find back: if the feed that it leaves is not lost, then
it never was.
-/

namespace Formula.Parse

open TokenFeed
open Result (andThen)

/-! ## Tokens and trees -/

/-- Two tokens with the same meaning to a parser. -/
structure SameMeaning (left right : Token) : Prop where
  kind_eq : left.kind = right.kind
  constant_eq : constant? left = constant? right
  name_eq : left.name? = right.name?

theorem SameMeaning.refl (token : Token) : SameMeaning token token where
  kind_eq := rfl
  constant_eq := rfl
  name_eq := rfl

/-- A relation between trees that every node passes on from its children. -/
structure Congruent (similar : Expr → Expr → Prop) : Prop where
  refl : ∀ expr, similar expr expr
  var : ∀ name {indices indices'}, List.Forall₂ similar indices indices' →
    similar (.var name indices) (.var name indices')
  call : ∀ name {arguments arguments'}, List.Forall₂ similar arguments arguments' →
    similar (.call name arguments) (.call name arguments')
  unary : ∀ op {operand operand'}, similar operand operand' →
    similar (.unary op operand) (.unary op operand')
  binary :
    ∀ op {left left' right right'}, similar left left' → similar right right' →
      similar (.binary op left right) (.binary op left' right')
  conditional : ∀ {condition condition' yes yes' no no'},
    similar condition condition' → similar yes yes' → similar no no' →
      similar (.conditional condition yes no) (.conditional condition' yes' no')

theorem Congruent.refl_list
    {similar : Expr → Expr → Prop}
    (congruent : Congruent similar)
    (exprs : List Expr) :
    List.Forall₂ similar exprs exprs :=
  List.forall₂_same.mpr fun expr _ => congruent.refl expr

theorem congruent_eq : Congruent Eq where
  refl _ := rfl
  var name _ _ same := congrArg (Expr.var name) (List.forall₂_eq_eq_eq ▸ same)
  call name _ _ same := congrArg (Expr.call name) (List.forall₂_eq_eq_eq ▸ same)
  unary op _ _ same := congrArg (Expr.unary op) same
  binary op _ _ _ _ sameLeft sameRight :=
    congrArg₂ (Expr.binary op) sameLeft sameRight
  conditional same sameYes sameNo := same ▸ sameYes ▸ sameNo ▸ rfl

/-! ## Steps -/

section

variable {τ υ : Type} {α β : Type}

/-- The step ended with an error. -/
def Fails (result : Result υ α) : Prop :=
  ∃ e rest, result = (.error e, rest)

theorem Fails.andThen
    {result : Result υ α}
    (fails : Fails result)
    (next : α → υ → Result υ β) :
    Fails (andThen result next) := by
  rcases fails with ⟨e, rest, rfl⟩
  exact ⟨e, rest, rfl⟩

/-- Related yields in front of feeds that are alike, or errors that agree.  A
lenient relation lets the right step refuse what the left one may accept. -/
inductive Relates
    (rel : α → α → Prop)
    (alike : τ → υ → Prop)
    (stuck : τ → υ → Prop)
    (agree : Error → Error → Prop)
    (lenient : Prop) :
    Result τ α → Result υ α → Prop where
  | ok {value value' s t} :
      rel value value' → alike s t →
        Relates rel alike stuck agree lenient (.ok value, s) (.ok value', t)
  | error {e e' s t} :
      agree e e' → stuck s t →
        Relates rel alike stuck agree lenient (.error e, s) (.error e', t)
  | refused {result e t} :
      lenient → Relates rel alike stuck agree lenient result (.error e, t)

theorem Fails.relates
    {rel : α → α → Prop}
    {alike stuck : τ → υ → Prop}
    {agree : Error → Error → Prop}
    {lenient : Prop}
    {result' : Result υ α}
    (fails : Fails result')
    (isLenient : lenient)
    (result : Result τ α) :
    Relates rel alike stuck agree lenient result result' := by
  rcases fails with ⟨e, rest, rfl⟩
  exact .refused isLenient

/-- What a step that begins with the feed `s` keeps: a feed that is lost, and,
unless it gets lost, the relation with another step. -/
structure Traces
    (lost : τ → Prop)
    (s : τ)
    (related : Prop)
    (rel : α → α → Prop)
    (alike : τ → υ → Prop)
    (stuck : τ → υ → Prop)
    (agree : Error → Error → Prop)
    (lenient : Prop)
    (result : Result τ α)
    (result' : Result υ α) :
    Prop where
  keeps : lost s → lost result.2
  relates : related → ¬ lost result.2 →
    Relates rel alike stuck agree lenient result result'

variable {lost : τ → Prop} {related related' : Prop}
  {alike alike' stuck : τ → υ → Prop}
variable {agree : Error → Error → Prop} {lenient : Prop} {s s' : τ} {t : υ}
variable {rel : α → α → Prop} {rel' : β → β → Prop}

theorem Traces.ok
    {value value' : α}
    (keeps : lost s → lost s')
    (same : rel value value')
    (implies : related → alike s' t) :
    Traces lost s related rel alike stuck agree lenient (.ok value, s')
      (.ok value', t) where
  keeps := keeps
  relates isRelated _ := .ok same (implies isRelated)

theorem Traces.error
    {e e' : Error}
    (keeps : lost s → lost s')
    (agreed : related → agree e e')
    (halted : related → stuck s' t) :
    Traces lost s related rel alike stuck agree lenient (.error e, s')
      (.error e', t) where
  keeps := keeps
  relates isRelated _ := .error (agreed isRelated) (halted isRelated)

/-- A step may be said to begin earlier. -/
theorem Traces.of
    {result : Result τ α}
    {result' : Result υ α}
    (both : Traces lost s' related' rel alike stuck agree lenient result result')
    (keeps : lost s → lost s')
    (implies : related → related') :
    Traces lost s related rel alike stuck agree lenient result result' where
  keeps isLost := both.keeps (keeps isLost)
  relates isRelated := both.relates (implies isRelated)

theorem Traces.andThen
    {result : Result τ α}
    {result' : Result υ α}
    {next : α → τ → Result τ β}
    {next' : α → υ → Result υ β}
    (both : Traces lost s related rel alike stuck agree lenient result result')
    (refl : ∀ value, rel value value)
    (more : ∀ value value' s t, result = (.ok value, s) → rel value value' →
      Traces lost s (alike s t) rel' alike' stuck agree lenient (next value s)
        (next' value' t)) :
    Traces lost s related rel' alike' stuck agree lenient
      (andThen result next) (andThen result' next') where
  keeps isLost := by
    have keeps := both.keeps isLost
    rcases result with ⟨e | value, s'⟩
    · exact keeps
    · exact (more value value s' result'.2 rfl (refl value)).keeps keeps
  relates isRelated notLost := by
    have before : ¬ lost result.2 := by
      intro isLost
      rcases result with ⟨e | value, s'⟩
      · exact notLost isLost
      · exact notLost
          ((more value value s' result'.2 rfl (refl value)).keeps isLost)
    cases both.relates isRelated before with
    | ok same isAlike => exact (more _ _ _ _ rfl same).relates isAlike notLost
    | error agreed halted => exact .error agreed halted
    | refused isLenient => exact .refused isLenient

end

/-! ## Feeds -/

/-- What the parser does behind a condition: two branches, or nothing that belongs
to it. -/
def branching
    {τ : Type}
    [TokenFeed τ]
    (condition : Expr)
    (feed : τ) :
    Result τ Expr :=
  andThen (reading .operator feed) fun token after =>
    if token.kind = .question then
      andThen (conditional after).plain fun yes rest =>
        andThen (expecting .colon .colon rest) fun _ rest =>
          andThen (conditional rest).plain fun no rest =>
            (.ok (Expr.conditional condition yes no), rest)
    else
      (.ok condition, unget after)

theorem plain_conditional_eq {τ : Type} [TokenFeed τ] (feed : τ) :
    (conditional feed).plain = andThen (levels ladder feed).plain branching :=
  plain_conditional feed

/-- Feeds that have served a token and are good for any other, also once it is put
back. -/
structure Served {τ υ : Type} [TokenFeed τ] [TokenFeed υ]
    (ready : Mode → τ → υ → Prop)
    (stuck : τ → υ → Prop)
    (agree : Error → Error → Prop)
    (mode : Mode)
    (token token' : Token)
    (s : τ)
    (t : υ) :
    Prop where
  served : ∀ next, ready next s t
  back : ready mode (unget s) (unget t)
  halted : stuck s t
  unexpected :
    ∀ expected, agree (token.unexpected expected) (token'.unexpected expected)

/-- What the feeds serve to a request has the same meaning. -/
structure Regular {τ υ : Type} [TokenFeed τ] [TokenFeed υ]
    (ready : Mode → τ → υ → Prop)
    (stuck : τ → υ → Prop)
    (agree : Error → Error → Prop)
    (mode : Mode)
    (s : τ)
    (t : υ) :
    Prop where
  token : SameMeaning (token (advance mode s)) (token (advance mode t))
  fault : (TokenFeed.token (advance mode s)).kind = .error →
    agree (fault (advance mode s)) (fault (advance mode t)) ∧
      stuck (advance mode s) (advance mode t)
  served : (TokenFeed.token (advance mode s)).kind ≠ .error →
    Served ready stuck agree mode (TokenFeed.token (advance mode s))
      (TokenFeed.token (advance mode t)) (advance mode s) (advance mode t)

/-- Where an operand may come, the left feed serves a number, well-formed or not,
and the right one a sign.  It stays so when both are put back, and the operands
are related.  If the number is malformed, the right feed has no operand behind the
sign. -/
structure Glued {τ υ : Type} [TokenFeed τ] [TokenFeed υ]
    (ready : Mode → τ → υ → Prop)
    (glued : τ → υ → Prop)
    (similar : Expr → Expr → Prop)
    (stuck : τ → υ → Prop)
    (agree : Error → Error → Prop)
    (lenient : Prop)
    (s : τ)
    (t : υ) :
    Prop where
  number : (token (advance .operand s)).kind = .error ∨
    (token (advance .operand s)).kind = .integer ∨
    (token (advance .operand s)).kind = .float
  sign : (token (advance .operand t)).kind = .add ∨
    (token (advance .operand t)).kind = .sub
  unnamed : (token (advance .operand t)).name? = none
  back : glued (unget (advance .operand s)) (unget (advance .operand t))
  requested : ready .operand s t
  isLenient : lenient
  hopeless : (token (advance .operand s)).kind = .error →
    Fails (negation (unget (advance .operand t))).plain ∧
      Fails (prefixed (unget (advance .operand t))).plain
  operand : Relates similar (ready .operator) stuck agree lenient
    (prefixed s).plain (prefixed t).plain

/--
Feeds that are `ready` for a request in a mode serve tokens of the same meaning
to it, unless the left one gets lost, or they are `glued` and an operand is asked
for.  What they serve leaves them ready for anything, and once it is put back
they are ready for the same request.  Where a parser gives up they are `stuck`.
-/
structure FeedRelation {τ υ : Type} [TokenFeed τ] [TokenFeed υ]
    (lost : τ → Prop)
    (ready : Mode → τ → υ → Prop)
    (glued : τ → υ → Prop)
    (similar : Expr → Expr → Prop)
    (stuck : τ → υ → Prop)
    (agree : Error → Error → Prop)
    (lenient : Prop) :
    Prop where
  congruent : Congruent similar
  lost_advance : ∀ {s} mode, lost s → lost (advance mode s)
  lost_unget : ∀ {s}, lost s → lost (unget s)
  regular : ∀ {mode s t}, ready mode s t → (mode = .operand → ¬ glued s t) →
    ¬ lost (advance mode s) → Regular ready stuck agree mode s t
  apart : ∀ {s t}, glued s t → Glued ready glued similar stuck agree lenient s t

variable {τ υ : Type} [TokenFeed τ] [TokenFeed υ] {α β : Type} {lost : τ → Prop}
variable {ready : Mode → τ → υ → Prop} {glued alike stuck : τ → υ → Prop}
variable {similar : Expr → Expr → Prop} {agree : Error → Error → Prop}
  {lenient : Prop}
variable {s : τ} {t : υ} {rel : β → β → Prop}

/-! ### Signs without an operand -/

theorem ne_error_of_number
    {kind : TokenKind}
    (isNumber : kind = .integer ∨ kind = .float) :
    kind ≠ .error := by
  rcases isNumber with rfl | rfl <;> decide

theorem Fails.levels
    (fails : Fails (negation t).plain)
    (ls : List Level) :
    Fails (levels ls t).plain := by
  induction ls with
  | nil => exact plain_levels_nil t ▸ fails
  | cons level tighter ih => exact plain_levels_cons level tighter t ▸ ih.andThen _

theorem Fails.conditional
    (fails : Fails (negation t).plain) :
    Fails (conditional t).plain :=
  plain_conditional t ▸ (fails.levels ladder).andThen _

theorem Fails.arguments
    (fails : Fails (negation t).plain) :
    Fails (arguments t).plain :=
  plain_arguments t ▸ fails.conditional.andThen _

namespace Glued

variable (apart : Glued ready glued similar stuck agree lenient s t)
include apart

theorem reading_eq :
    reading .operand t =
      (.ok (token (advance .operand t)), advance .operand t) := by
  have wellFormed : (token (advance .operand t)).kind ≠ .error := by
    rcases apart.sign with isSign | isSign <;> simp [isSign]
  exact reading_of_wellFormed wellFormed

/-- Feeds that are glued are read: a number and a sign. -/
theorem andThen_reading
    {next : Token → τ → Result τ β}
    {next' : Token → υ → Result υ β}
    (notLost : ¬ lost (andThen (reading .operand s) next).2)
    (malformed : (token (advance .operand s)).kind = .error →
      Fails (next' (token (advance .operand t)) (advance .operand t)))
    (wellFormed : ∀ number s', reading .operand s = (.ok number, s') →
      number.kind = .integer ∨ number.kind = .float → s' = advance .operand s →
        ¬ lost (next number s').2 →
          Relates rel alike stuck agree lenient (next number s')
            (next' (token (advance .operand t)) (advance .operand t))) :
    Relates rel alike stuck agree lenient
      (andThen (reading .operand s) next)
      (andThen (reading .operand t) next') := by
  rw [apart.reading_eq, Result.andThen_ok]
  rcases apart.number with isMalformed | isNumber
  · exact (malformed isMalformed).relates apart.isLenient _
  · have read := reading_of_wellFormed (ne_error_of_number isNumber)
    rw [read, Result.andThen_ok] at notLost ⊢
    exact wellFormed _ _ read isNumber rfl notLost

/-- The sign is none of the kinds that are looked for by themselves. -/
theorem ne_of_sign
    {kind : TokenKind}
    (notSign : kind ≠ .add ∧ kind ≠ .sub) :
    (token (advance .operand t)).kind ≠ kind := by
  rcases apart.sign with isSign | isSign
  · exact isSign ▸ notSign.1.symm
  · exact isSign ▸ notSign.2.symm

/-- Neither parentheses nor a name are in front, so there is no operand but behind
the sign. -/
theorem existing_fails : Fails (existing t).plain := by
  rw [plain_existing, apart.reading_eq, Result.andThen_ok,
    if_neg (apart.ne_of_sign (by decide)), apart.unnamed]
  exact ⟨_, _, rfl⟩

theorem primary_fails : Fails (primary t).plain := by
  have notConstant : constant? (token (advance .operand t)) = none := by
    rcases apart.sign with isSign | isSign <;>
      simp [constant?, Token.literalValue?, isSign]
  rw [plain_primary, apart.reading_eq, Result.andThen_ok, notConstant]
  dsimp only
  rw [if_neg (apart.ne_of_sign (by decide)), apart.unnamed]
  exact ⟨_, _, rfl⟩

theorem not_negation : negation? (token (advance .operand t)).kind = none := by
  rcases apart.sign with isSign | isSign <;> rw [isSign] <;> rfl

end Glued

namespace FeedRelation

/-- Both feeds serve a token and go on, or both are at a malformed one, or they
are glued. -/
theorem andThen_reading
    (relation : FeedRelation lost ready glued similar stuck agree lenient)
    {mode : Mode}
    {next : Token → τ → Result τ β}
    {next' : Token → υ → Result υ β}
    (more : ∀ token token' s' t',
      reading mode s = (.ok token, s') →
        SameMeaning token token' →
          Traces lost s' (Served ready stuck agree mode token token' s' t') rel
            alike stuck agree lenient (next token s') (next' token' t'))
    (signs : mode = .operand → Glued ready glued similar stuck agree lenient s t →
      ¬ lost (andThen (reading mode s) next).2 →
        Relates rel alike stuck agree lenient
          (andThen (reading mode s) next) (andThen (reading mode t) next')) :
    Traces lost s (ready mode s t) rel alike stuck agree lenient
      (andThen (reading mode s) next) (andThen (reading mode t) next') := by
  have keeps : lost s → lost (andThen (reading mode s) next).2 := by
    intro isLost
    rcases read : reading mode s with ⟨e | token, s'⟩
    · obtain rfl : advance mode s = s' := congrArg Prod.snd read
      exact relation.lost_advance mode isLost
    · obtain ⟨rfl, _, _⟩ := reading_eq_ok read
      exact (more _ _ _ (advance mode t) read (.refl _)).keeps
        (relation.lost_advance mode isLost)
  refine ⟨keeps, fun related notLost => ?_⟩
  by_cases isGlued : mode = .operand ∧ glued s t
  · exact signs isGlued.1 (relation.apart isGlued.2) notLost
  have before : ¬ lost (advance mode s) := by
    intro isLost
    rcases read : reading mode s with ⟨e | token, s'⟩
    · obtain rfl : advance mode s = s' := congrArg Prod.snd read
      rw [read] at notLost
      exact notLost isLost
    · obtain ⟨rfl, _, _⟩ := reading_eq_ok read
      rw [read] at notLost
      exact notLost ((more _ _ _ (advance mode t) read (.refl _)).keeps isLost)
  rcases relation.regular related
    (fun isOperand isGlued' => isGlued ⟨isOperand, isGlued'⟩) before with
    ⟨same, fault, served⟩
  by_cases malformed : (token (advance mode s)).kind = .error
  · rcases fault malformed with ⟨agreed, halted⟩
    rw [reading_of_malformed malformed,
      reading_of_malformed (same.kind_eq ▸ malformed), Result.andThen_error,
      Result.andThen_error]
    exact .error agreed halted
  · have read := reading_of_wellFormed malformed
    have read' := reading_of_wellFormed (same.kind_eq ▸ malformed)
    rw [read, Result.andThen_ok] at notLost
    rw [read, read', Result.andThen_ok, Result.andThen_ok]
    exact (more _ _ _ _ read same).relates (served malformed) notLost

theorem expecting_traces
    (relation : FeedRelation lost ready glued similar stuck agree lenient)
    (kind : TokenKind)
    (expected : Expectation)
    (s : τ)
    (t : υ) :
    Traces lost s (ready .operator s t) Eq (fun s t => ∀ mode, ready mode s t)
      stuck agree lenient
      (expecting kind expected s) (expecting kind expected t) := by
  refine relation.andThen_reading (fun token token' s' t' _ same => ?_) nofun
  rw [← same.kind_eq]
  split
  · exact .ok id rfl (·.served)
  · exact .error id (·.unexpected _) (·.halted)

/-!
The functions of the parser are related one by one.  The recursion is their own:
the left feed gets smaller, or the form of expression gets tighter.
-/

mutual

theorem conditional_traces
    (relation : FeedRelation lost ready glued similar stuck agree lenient)
    (s : τ)
    (t : υ) :
    Traces lost s (ready .operand s t) similar (ready .operator)
      stuck agree lenient (conditional s).plain (conditional t).plain := by
  rw [plain_conditional_eq, plain_conditional_eq]
  refine (relation.levels_traces ladder s t).andThen relation.congruent.refl
    fun condition condition' s₁ t₁ done same => ?_
  have le := size_le_of_plain done
  exact relation.branching_traces same s₁ t₁
termination_by (size s, 2 * ladder.length + 7)
decreasing_by all_goals (simp only [Prod.lex_def, true_and]; omega)

theorem branching_traces
    (relation : FeedRelation lost ready glued similar stuck agree lenient)
    {condition condition' : Expr}
    (similar_condition : similar condition condition')
    (s : τ)
    (t : υ) :
    Traces lost s (ready .operator s t) similar (ready .operator)
      stuck agree lenient (branching condition s) (branching condition' t) := by
  refine relation.andThen_reading (fun token token' s₁ t₁ read same => ?_) nofun
  rw [← same.kind_eq]
  split
  case isFalse => exact .ok relation.lost_unget similar_condition (·.back)
  case isTrue isQuestion =>
    have shorter : size s₁ < size s :=
      size_lt_of_reading read (by simp [isQuestion])
    refine ((relation.conditional_traces s₁ t₁).of id (·.served _)).andThen
      relation.congruent.refl fun yes yes' s₂ t₂ done sameYes => ?_
    have le := size_le_of_plain done
    refine (relation.expecting_traces .colon .colon _ _).andThen (fun _ => rfl)
      fun _ _ s₃ t₃ done _ => ?_
    have le' := size_le_of_expecting done
    refine ((relation.conditional_traces s₃ t₃).of id (· _)).andThen
      relation.congruent.refl fun no no' s₄ t₄ _ sameNo => ?_
    exact .ok id (relation.congruent.conditional similar_condition sameYes sameNo)
      id
termination_by (size s, 0)
decreasing_by all_goals (simp only [Prod.lex_def]; omega)

theorem levels_traces
    (relation : FeedRelation lost ready glued similar stuck agree lenient)
    (ls : List Level)
    (s : τ)
    (t : υ) :
    Traces lost s (ready .operand s t) similar (ready .operator)
      stuck agree lenient (levels ls s).plain (levels ls t).plain := by
  match ls with
  | [] =>
      rw [plain_levels_nil, plain_levels_nil]
      exact relation.negation_traces s t
  | level :: tighter =>
      rw [plain_levels_cons, plain_levels_cons]
      refine (relation.levels_traces tighter s t).andThen relation.congruent.refl
        fun left left' s₁ t₁ done same => ?_
      have le := size_le_of_plain done
      exact relation.chain_traces level tighter same s₁ t₁
termination_by (size s, 2 * ls.length + 5)
decreasing_by
  all_goals
    simp only [Prod.lex_def, List.length_cons, List.length_nil, true_and]
    omega

theorem chain_traces
    (relation : FeedRelation lost ready glued similar stuck agree lenient)
    (level : Level)
    (tighter : List Level)
    {left left' : Expr}
    (sameLeft : similar left left')
    (s : τ)
    (t : υ) :
    Traces lost s (ready .operator s t) similar (ready .operator)
      stuck agree lenient
      (chain level tighter left s).plain (chain level tighter left' t).plain := by
  rw [plain_chain, plain_chain]
  refine relation.andThen_reading (fun token token' s₁ t₁ read same => ?_) nofun
  rw [← same.kind_eq]
  cases found : level.op? token.kind with
  | none => exact .ok relation.lost_unget sameLeft (·.back)
  | some op =>
      have shorter : size s₁ < size s :=
        size_lt_of_reading read (Level.ne_endOfInput found)
      refine ((relation.levels_traces tighter s₁ t₁).of id (·.served _)).andThen
        relation.congruent.refl fun right right' s₂ t₂ done sameRight => ?_
      have le := size_le_of_plain done
      exact relation.chain_traces level tighter
        (relation.congruent.binary op sameLeft sameRight) s₂ t₂
termination_by (size s, 2 * tighter.length + 6)
decreasing_by all_goals (simp only [Prod.lex_def]; omega)

theorem negation_traces
    (relation : FeedRelation lost ready glued similar stuck agree lenient)
    (s : τ)
    (t : υ) :
    Traces lost s (ready .operand s t) similar (ready .operator)
      stuck agree lenient (negation s).plain (negation t).plain := by
  rw [plain_negation, plain_negation]
  refine relation.andThen_reading (fun token token' s₁ t₁ read same => ?_)
    fun _ apart notLost => ?_
  · rw [← same.kind_eq]
    cases found : negation? token.kind with
    | some op =>
        have shorter : size s₁ < size s :=
          size_lt_of_reading read (negation?_ne_endOfInput found)
        refine ((relation.negation_traces s₁ t₁).of id (·.served _)).andThen
          relation.congruent.refl fun operand operand' s₂ t₂ _ same => ?_
        exact .ok id (relation.congruent.unary op same) id
    | none =>
        have le := size_unget_le_of_reading read
        exact (relation.prefixed_traces _ _).of relation.lost_unget (·.back)
  · refine apart.andThen_reading notLost (fun malformed => ?_)
      fun number s₁ _ isNumber isRest _ => ?_
    · rw [apart.not_negation]
      exact (apart.hopeless malformed).2
    · have notNegation : negation? number.kind = none := by
        rcases isNumber with isNumber | isNumber <;> rw [isNumber] <;> rfl
      rw [notNegation, apart.not_negation, isRest]
      exact (relation.apart apart.back).operand
termination_by (size s, 4)
decreasing_by all_goals (simp only [Prod.lex_def]; omega)

theorem prefixed_traces
    (relation : FeedRelation lost ready glued similar stuck agree lenient)
    (s : τ)
    (t : υ) :
    Traces lost s (ready .operand s t) similar (ready .operator)
      stuck agree lenient (prefixed s).plain (prefixed t).plain := by
  rw [plain_prefixed, plain_prefixed]
  refine relation.andThen_reading (fun token token' s₁ t₁ read same => ?_)
    fun _ apart _ => ?_
  · rw [← same.kind_eq]
    cases found : prefixOp? token.kind with
    | some op =>
        have shorter : size s₁ < size s :=
          size_lt_of_reading read (prefixOp?_ne_endOfInput found)
        refine ((relation.prefixed_traces s₁ t₁).of id (·.served _)).andThen
          relation.congruent.refl fun operand operand' s₂ t₂ _ same => ?_
        exact .ok id (relation.congruent.unary op same) id
    | none =>
        dsimp only
        split
        case isTrue isDefined =>
          have shorter : size s₁ < size s :=
            size_lt_of_reading read (by simp [isDefined])
          refine ((relation.existing_traces s₁ t₁).of id (·.served _)).andThen
            relation.congruent.refl fun operand operand' s₂ t₂ _ same => ?_
          exact .ok id (relation.congruent.unary .defined same) id
        case isFalse =>
          have le := size_unget_le_of_reading read
          exact (relation.primary_traces _ _).of relation.lost_unget (·.back)
  · rw [← plain_prefixed, ← plain_prefixed]
    exact apart.operand
termination_by (size s, 3)
decreasing_by all_goals (simp only [Prod.lex_def]; omega)

theorem existing_traces
    (relation : FeedRelation lost ready glued similar stuck agree lenient)
    (s : τ)
    (t : υ) :
    Traces lost s (ready .operand s t) similar (ready .operator)
      stuck agree lenient (existing s).plain (existing t).plain := by
  rw [plain_existing, plain_existing]
  refine relation.andThen_reading (fun token token' s₁ t₁ read same => ?_)
    fun _ apart _ => ?_
  · have le := size_le_of_reading read
    rw [← same.kind_eq, ← same.name_eq]
    split
    case isTrue isOpen =>
      have shorter : size s₁ < size s := size_lt_of_reading read (by simp [isOpen])
      refine ((relation.existing_traces s₁ t₁).of id (·.served _)).andThen
        relation.congruent.refl fun expr expr' s₂ t₂ _ same => ?_
      refine (relation.expecting_traces .closeParen .closeParen _ _).andThen
        (fun _ => rfl) fun _ _ s₃ t₃ _ _ => ?_
      exact .ok id same (· _)
    case isFalse =>
      cases token.name? with
      | some name =>
          refine ((relation.indices_traces s₁ t₁).of id (·.served _)).andThen
            relation.congruent.refl_list fun indices indices' s₂ t₂ _ same => ?_
          exact .ok id (relation.congruent.var name same) id
      | none => exact .error id (·.unexpected _) (·.halted)
  · rw [← plain_existing, ← plain_existing]
    exact apart.existing_fails.relates apart.isLenient _
termination_by (size s, 1)
decreasing_by all_goals (simp only [Prod.lex_def]; omega)

theorem primary_traces
    (relation : FeedRelation lost ready glued similar stuck agree lenient)
    (s : τ)
    (t : υ) :
    Traces lost s (ready .operand s t) similar (ready .operator)
      stuck agree lenient (primary s).plain (primary t).plain := by
  rw [plain_primary, plain_primary]
  refine relation.andThen_reading (fun token token' s₁ t₁ read same => ?_)
    fun _ apart _ => ?_
  · have le := size_le_of_reading read
    rw [← same.kind_eq, ← same.name_eq, ← same.constant_eq]
    cases constant? token with
    | some value => exact .ok id (relation.congruent.refl _) (·.served _)
    | none =>
        dsimp only
        split
        case isTrue isOpen =>
          have shorter : size s₁ < size s :=
            size_lt_of_reading read (by simp [isOpen])
          refine ((relation.conditional_traces s₁ t₁).of id (·.served _)).andThen
            relation.congruent.refl fun expr expr' s₂ t₂ _ same => ?_
          refine (relation.expecting_traces .closeParen .closeParen _ _).andThen
            (fun _ => rfl) fun _ _ s₃ t₃ _ _ => ?_
          exact .ok id same (· _)
        case isFalse =>
          cases token.name? with
          | some name =>
              exact (relation.named_traces name s₁ t₁).of id (·.served _)
          | none => exact .error id (·.unexpected _) (·.halted)
  · rw [← plain_primary, ← plain_primary]
    exact apart.primary_fails.relates apart.isLenient _
termination_by (size s, 2)
decreasing_by all_goals (simp only [Prod.lex_def]; omega)

theorem named_traces
    (relation : FeedRelation lost ready glued similar stuck agree lenient)
    (name : String)
    (s : τ)
    (t : υ) :
    Traces lost s (ready .operator s t) similar (ready .operator)
      stuck agree lenient (named name s).plain (named name t).plain := by
  rw [plain_named, plain_named]
  refine relation.andThen_reading (fun token token' s₁ t₁ read same => ?_) nofun
  rw [← same.kind_eq]
  split
  case isTrue isOpen =>
    have shorter : size s₁ < size s := size_lt_of_reading read (by simp [isOpen])
    have call : ∀ s₂ t₂, size (unget s₂) ≤ size s₁ →
        Traces lost (unget s₂) (ready .operand (unget s₂) (unget t₂)) similar
          (ready .operator) stuck agree lenient
          (andThen (arguments (unget s₂)).plain fun arguments rest =>
            (.ok (Expr.call name arguments), rest))
          (andThen (arguments (unget t₂)).plain fun arguments rest =>
            (.ok (Expr.call name arguments), rest)) := by
      intro s₂ t₂ le
      refine (relation.arguments_traces _ _).andThen relation.congruent.refl_list
        fun arguments arguments' s₃ t₃ _ same => ?_
      exact .ok id (relation.congruent.call name same) id
    refine Traces.of
      (relation.andThen_reading (fun token token' s₂ t₂ read same => ?_)
      fun _ apart notLost => ?_) id (·.served _)
    · rw [← same.kind_eq]
      split
      case isTrue => exact .ok id (relation.congruent.call name .nil) (·.served _)
      case isFalse =>
        exact (call s₂ t₂ (size_unget_le_of_reading read)).of
          relation.lost_unget (·.back)
    · refine apart.andThen_reading notLost (fun malformed => ?_)
        fun number s₂ read isNumber isRest notLost => ?_
      · rw [if_neg (apart.ne_of_sign (by decide))]
        exact (apart.hopeless malformed).1.arguments.andThen _
      · have notClosing : number.kind ≠ .closeParen := by
          rcases isNumber with isNumber | isNumber <;> simp [isNumber]
        rw [if_neg notClosing] at notLost ⊢
        rw [if_neg (apart.ne_of_sign (by decide))]
        have ready := (relation.apart apart.back).requested
        rw [← isRest] at ready
        exact (call s₂ _ (size_unget_le_of_reading read)).relates ready notLost
  case isFalse =>
    have le := size_unget_le_of_reading read
    refine ((relation.indices_traces _ _).of relation.lost_unget (·.back)).andThen
      relation.congruent.refl_list fun indices indices' s₂ t₂ _ same => ?_
    exact .ok id (relation.congruent.var name same) id
termination_by (size s, 1)
decreasing_by all_goals (simp only [Prod.lex_def]; omega)

theorem arguments_traces
    (relation : FeedRelation lost ready glued similar stuck agree lenient)
    (s : τ)
    (t : υ) :
    Traces lost s (ready .operand s t) (List.Forall₂ similar) (ready .operator)
      stuck agree lenient (arguments s).plain (arguments t).plain := by
  rw [plain_arguments, plain_arguments]
  refine (relation.conditional_traces s t).andThen relation.congruent.refl
    fun argument argument' s₁ t₁ done sameFirst => ?_
  have le := size_le_of_plain done
  refine relation.andThen_reading (fun token token' s₂ t₂ read same => ?_) nofun
  rw [← same.kind_eq]
  split
  case isTrue isComma =>
    have shorter : size s₂ < size s₁ := size_lt_of_reading read (by simp [isComma])
    refine ((relation.arguments_traces s₂ t₂).of id (·.served _)).andThen
      relation.congruent.refl_list fun others others' s₃ t₃ _ same => ?_
    exact .ok id (.cons sameFirst same) id
  case isFalse =>
    split
    · exact .ok id (.cons sameFirst .nil) (·.served _)
    · exact .error id (·.unexpected _) (·.halted)
termination_by (size s, 2 * ladder.length + 8)
decreasing_by all_goals (simp only [Prod.lex_def, true_and]; omega)

theorem indices_traces
    (relation : FeedRelation lost ready glued similar stuck agree lenient)
    (s : τ)
    (t : υ) :
    Traces lost s (ready .operator s t) (List.Forall₂ similar)
      (ready .operator) stuck agree
      lenient (indices s).plain (indices t).plain := by
  rw [plain_indices, plain_indices]
  refine relation.andThen_reading (fun token token' s₁ t₁ read same => ?_) nofun
  rw [← same.kind_eq]
  split
  case isFalse => exact .ok relation.lost_unget .nil (·.back)
  case isTrue isOpen =>
    have shorter : size s₁ < size s := size_lt_of_reading read (by simp [isOpen])
    refine ((relation.conditional_traces s₁ t₁).of id (·.served _)).andThen
      relation.congruent.refl fun index index' s₂ t₂ done sameFirst => ?_
    have le := size_le_of_plain done
    refine (relation.expecting_traces .closeBracket .closeBracket _ _).andThen
      (fun _ => rfl) fun _ _ s₃ t₃ done _ => ?_
    have le' := size_le_of_expecting done
    refine ((relation.indices_traces s₃ t₃).of id (· _)).andThen
      relation.congruent.refl_list fun others others' s₄ t₄ _ same => ?_
    exact .ok id (.cons sameFirst same) id
termination_by (size s, 0)
decreasing_by all_goals (simp only [Prod.lex_def]; omega)

end

theorem others_traces
    (relation : FeedRelation lost ready glued similar stuck agree lenient)
    (multiple : Bool)
    (s : τ)
    (t : υ) :
    Traces lost s (ready .operator s t) (List.Forall₂ similar)
      (ready .operator) stuck agree
      lenient (others multiple s).plain (others multiple t).plain := by
  rw [plain_others, plain_others]
  refine relation.andThen_reading (fun token token' s₁ t₁ read same => ?_) nofun
  rw [← same.kind_eq]
  split
  case isTrue => exact .ok id .nil (·.served _)
  split
  case isFalse => exact .error id (·.unexpected _) (·.halted)
  case isTrue isSemicolon =>
    have shorter : size s₁ < size s :=
      size_lt_of_reading read (by simp [isSemicolon.1])
    have further : ∀ s₂ t₂, size (unget s₂) ≤ size s₁ →
        Traces lost (unget s₂) (ready .operand (unget s₂) (unget t₂))
          (List.Forall₂ similar) (ready .operator) stuck agree lenient
          (andThen (conditional (unget s₂)).plain fun expr rest =>
            andThen (others multiple rest).plain fun more rest =>
              (.ok (expr :: more), rest))
          (andThen (conditional (unget t₂)).plain fun expr rest =>
            andThen (others multiple rest).plain fun more rest =>
              (.ok (expr :: more), rest)) := by
      intro s₂ t₂ le
      refine (relation.conditional_traces _ _).andThen relation.congruent.refl
        fun expr expr' s₃ t₃ done sameFirst => ?_
      have le' := size_le_of_plain done
      refine (relation.others_traces multiple s₃ t₃).andThen
        relation.congruent.refl_list fun more more' s₄ t₄ _ same => ?_
      exact .ok id (.cons sameFirst same) id
    refine Traces.of
      (relation.andThen_reading (fun token token' s₂ t₂ read same => ?_)
      fun _ apart notLost => ?_) id (·.served _)
    · rw [← same.kind_eq]
      split
      case isTrue => exact .ok id .nil (·.served _)
      case isFalse =>
        exact (further s₂ t₂ (size_unget_le_of_reading read)).of
          relation.lost_unget (·.back)
    · refine apart.andThen_reading notLost (fun malformed => ?_)
        fun number s₂ read isNumber isRest notLost => ?_
      · rw [if_neg (apart.ne_of_sign (by decide))]
        exact (apart.hopeless malformed).1.conditional.andThen _
      · have notEnd : number.kind ≠ .endOfInput := by
          rcases isNumber with isNumber | isNumber <;> simp [isNumber]
        rw [if_neg notEnd] at notLost ⊢
        rw [if_neg (apart.ne_of_sign (by decide))]
        have ready := (relation.apart apart.back).requested
        rw [← isRest] at ready
        exact (further s₂ _ (size_unget_le_of_reading read)).relates ready notLost
termination_by size s

/-! ## What can be parsed -/

theorem expression_traces
    (relation : FeedRelation lost ready glued similar stuck agree lenient)
    (s : τ)
    (t : υ) :
    Traces lost s (ready .operand s t) similar (ready .operator)
      stuck agree lenient (expression s) (expression t) :=
  relation.conditional_traces s t

theorem wholeExpression_traces
    (relation : FeedRelation lost ready glued similar stuck agree lenient)
    (s : τ)
    (t : υ) :
    Traces lost s (ready .operand s t) similar (ready .operator)
      stuck agree lenient (wholeExpression s) (wholeExpression t) := by
  rw [wholeExpression_eq, wholeExpression_eq]
  refine (relation.expression_traces s t).andThen relation.congruent.refl
    fun expr expr' s₁ t₁ _ same => ?_
  refine (relation.expecting_traces .endOfInput .endOfExpression _ _).andThen
    (fun _ => rfl) fun _ _ s₂ t₂ _ _ => ?_
  exact .ok id same (· _)

theorem expressions_traces
    (relation : FeedRelation lost ready glued similar stuck agree lenient)
    (multiple : Bool)
    (s : τ)
    (t : υ) :
    Traces lost s (ready .operand s t) (List.Forall₂ similar)
      (ready .operator) stuck agree
      lenient (expressions multiple s) (expressions multiple t) := by
  rw [expressions_eq, expressions_eq]
  refine (relation.expression_traces s t).andThen relation.congruent.refl
    fun expr expr' s₁ t₁ _ sameFirst => ?_
  refine (relation.others_traces multiple s₁ t₁).andThen
    relation.congruent.refl_list fun more more' s₂ t₂ _ same => ?_
  exact .ok id (.cons sameFirst same) id

end FeedRelation

end Formula.Parse
