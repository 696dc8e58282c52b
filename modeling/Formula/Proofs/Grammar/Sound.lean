import Formula.Proofs.Grammar.Standing
import Formula.Proofs.Grammar.Tables

/-!
# Soundness of the parser

Whatever the parser returns is derived by the grammar, between the position
where it began and the one where it stopped.  There is one statement for each
function of the parser, and the recursion is that of the functions.
-/

namespace Formula.Grammar

open Parse
open TokenFeed (size)
open Result (andThen_eq_ok)

variable {σ : Type} [CharSource σ]

/-- What a step yields is derived up to where its feed stands afterwards. -/
structure Sound
    (symbol : Symbol)
    (s : σ)
    (result : Result (Tokenizer σ) symbol.Yield) :
    Prop where
  derives : ∀ {yield rest}, result = (.ok yield, rest) →
    ∃ s', Derives symbol s yield s' ∧ rest.Stands .operator s'

/-- The ranks that are left on a ladder whose looser levels were taken off. -/
theorem drop_ladder_cons
    {rank : Nat}
    {level : Level}
    {tighter : List Level}
    (left : ladder.drop rank = level :: tighter) :
    rank < ranks ∧ ladder[rank]? = some level ∧
      ladder.drop (rank + 1) = tighter := by
  have within : rank < ladder.length := by
    refine Nat.lt_of_not_le fun beyond => ?_
    rw [List.drop_eq_nil_of_le beyond] at left
    cases left
  rw [List.drop_eq_getElem_cons within] at left
  rcases List.cons.inj left with ⟨rfl, rfl⟩
  exact ⟨within, List.getElem?_eq_getElem within, rfl⟩

mutual

theorem conditional_sound
    (s : σ)
    (feed : Tokenizer σ)
    (stands : feed.Stands .operand s) :
    Sound .ternary s (conditional feed).plain := by
  refine ⟨fun {t rest} done => ?_⟩
  rw [plain_conditional] at done
  rcases andThen_eq_ok done with ⟨condition, feed₁, first, done⟩
  have le := size_le_of_plain first
  rcases
    (levels_sound 0 ladder rfl (Nat.zero_le _) s feed stands).derives first with
    ⟨s₁, derives, stands₁⟩
  rcases andThen_eq_ok done with ⟨token, feed₂, read, done⟩
  rcases terminal_of_reading stands₁ read with ⟨s₂, question, stands₂, back⟩
  split at done
  case isFalse =>
    cases done
    exact ⟨s₁, .plainTernary derives, back⟩
  case isTrue isQuestion =>
    have shorter : size feed₂ < size feed₁ :=
      size_lt_of_reading read (by simp [isQuestion])
    rcases andThen_eq_ok done with ⟨yes, feed₃, second, done⟩
    have le' := size_le_of_plain second
    rcases (conditional_sound s₂ feed₂ (stands₂ _)).derives second with
      ⟨s₃, derivesYes, stands₃⟩
    rcases andThen_eq_ok done with ⟨_, feed₄, expected, done⟩
    have le'' := size_le_of_expecting expected
    rcases terminal_of_expecting stands₃ expected with
      ⟨_, s₄, colon, isColon, stands₄⟩
    rcases andThen_eq_ok done with ⟨no, feed₅, third, done⟩
    rcases (conditional_sound s₄ feed₄ (stands₄ _)).derives third with
      ⟨s₅, derivesNo, stands₅⟩
    cases done
    exact ⟨s₅, .conditional derives question isQuestion derivesYes colon
      isColon derivesNo, stands₅⟩
termination_by (size feed, 2 * ladder.length + 7)
decreasing_by all_goals (simp only [Prod.lex_def, true_and]; omega)

theorem levels_sound
    (rank : Nat)
    (ls : List Level)
    (left : ladder.drop rank = ls)
    (within : rank ≤ ranks)
    (s : σ)
    (feed : Tokenizer σ)
    (stands : feed.Stands .operand s) :
    Sound (.binary rank) s (levels ls feed).plain := by
  refine ⟨fun {t rest} done => ?_⟩
  match ls with
  | [] =>
      rw [plain_levels_nil] at done
      rcases (negation_sound s feed stands).derives done with
        ⟨s', derives, stands'⟩
      have atEnd : rank = ranks :=
        Nat.le_antisymm within (List.drop_eq_nil_iff.mp left)
      subst atEnd
      exact ⟨s', .tightest derives, stands'⟩
  | level :: tighter =>
      rcases drop_ladder_cons left with ⟨lt, onLadder, left'⟩
      rw [plain_levels_cons] at done
      rcases andThen_eq_ok done with ⟨operand, feed₁, first, done⟩
      have le := size_le_of_plain first
      rcases (levels_sound (rank + 1) tighter left' lt s feed stands).derives
        first with
        ⟨s₁, derives, stands₁⟩
      exact (chain_sound rank level tighter onLadder left' lt s operand s₁ feed₁
        (.tighter lt derives) stands₁).derives done
termination_by (size feed, 2 * ls.length + 5)
decreasing_by
  all_goals
    simp only [Prod.lex_def, List.length_cons, List.length_nil, true_and]
    omega

/-- A chain goes on from what was derived before it. -/
theorem chain_sound
    (rank : Nat)
    (level : Level)
    (tighter : List Level)
    (onLadder : ladder[rank]? = some level)
    (left : ladder.drop (rank + 1) = tighter)
    (within : rank < ranks)
    (s : σ)
    (operand : Expr)
    (s₁ : σ)
    (feed : Tokenizer σ)
    (derives : Derives (.binary rank) s operand s₁)
    (stands : feed.Stands .operator s₁) :
    Sound (.binary rank) s (chain level tighter operand feed).plain := by
  refine ⟨fun {t rest} done => ?_⟩
  rw [plain_chain] at done
  rcases andThen_eq_ok done with ⟨token, feed₁, read, done⟩
  rcases terminal_of_reading stands read with ⟨s₂, terminal, stands₁, back⟩
  cases found : level.op? token.kind with
  | none =>
      rw [found] at done
      cases done
      exact ⟨s₁, derives, back⟩
  | some op =>
      rw [found] at done
      have shorter : size feed₁ < size feed :=
        size_lt_of_reading read (Level.ne_endOfInput found)
      rcases (op?_eq_some_iff onLadder).mp found with ⟨binary, ranked⟩
      rcases andThen_eq_ok done with ⟨right, feed₂, second, done⟩
      have le := size_le_of_plain second
      rcases
        (levels_sound (rank + 1) tighter left within s₂ feed₁
          (stands₁ _)).derives second with
        ⟨s₃, derivesRight, stands₃⟩
      exact (chain_sound rank level tighter onLadder left within s
        (.binary op operand right) s₃
        feed₂ (.binary derives terminal binary ranked derivesRight)
        stands₃).derives done
termination_by (size feed, 2 * tighter.length + 6)
decreasing_by all_goals (simp only [Prod.lex_def]; omega)

theorem negation_sound
    (s : σ)
    (feed : Tokenizer σ)
    (stands : feed.Stands .operand s) :
    Sound .negation s (negation feed).plain := by
  refine ⟨fun {t rest} done => ?_⟩
  rw [plain_negation] at done
  rcases andThen_eq_ok done with ⟨token, feed₁, read, done⟩
  rcases terminal_of_reading stands read with ⟨s₁, terminal, stands₁, back⟩
  cases found : negation? token.kind with
  | some op =>
      rw [found] at done
      have shorter : size feed₁ < size feed :=
        size_lt_of_reading read (negation?_ne_endOfInput found)
      rcases andThen_eq_ok done with ⟨operand, feed₂, second, done⟩
      rcases (negation_sound s₁ feed₁ (stands₁ _)).derives second with
        ⟨s₂, derives, stands₂⟩
      cases done
      exact ⟨s₂, .negation terminal (negation?_eq_some_iff.mp found) derives,
        stands₂⟩
  | none =>
      rw [found] at done
      have le := size_unget_le_of_reading read
      rcases (prefixed_sound s _ back).derives done with ⟨s₂, derives, stands₂⟩
      exact ⟨s₂, .plainSign terminal (negation?_eq_none_iff.mp found) derives,
        stands₂⟩
termination_by (size feed, 4)
decreasing_by all_goals (simp only [Prod.lex_def]; omega)

theorem prefixed_sound
    (s : σ)
    (feed : Tokenizer σ)
    (stands : feed.Stands .operand s) :
    Sound .sign s (prefixed feed).plain := by
  refine ⟨fun {t rest} done => ?_⟩
  rw [plain_prefixed] at done
  rcases andThen_eq_ok done with ⟨token, feed₁, read, done⟩
  rcases terminal_of_reading stands read with ⟨s₁, terminal, stands₁, back⟩
  cases found : prefixOp? token.kind with
  | some op =>
      rw [found] at done
      have shorter : size feed₁ < size feed :=
        size_lt_of_reading read (prefixOp?_ne_endOfInput found)
      rcases andThen_eq_ok done with ⟨operand, feed₂, second, done⟩
      rcases (prefixed_sound s₁ feed₁ (stands₁ _)).derives second with
        ⟨s₂, derives, stands₂⟩
      cases done
      exact ⟨s₂, .sign terminal (prefixOp?_eq_some_iff.mp found) derives, stands₂⟩
  | none =>
      rw [found] at done
      dsimp only at done
      split at done
      case isTrue isDefined =>
        have shorter : size feed₁ < size feed :=
          size_lt_of_reading read (by simp [isDefined])
        rcases andThen_eq_ok done with ⟨operand, feed₂, second, done⟩
        rcases (existing_sound s₁ feed₁ (stands₁ _)).derives second with
          ⟨s₂, derives, stands₂⟩
        cases done
        exact ⟨s₂, .defined terminal isDefined derives, stands₂⟩
      case isFalse notDefined =>
        have le := size_unget_le_of_reading read
        rcases (primary_sound s _ back).derives done with ⟨s₂, derives, stands₂⟩
        exact ⟨s₂, .plainPrimary terminal (prefixOp?_eq_none_iff.mp found)
          notDefined derives, stands₂⟩
termination_by (size feed, 3)
decreasing_by all_goals (simp only [Prod.lex_def]; omega)

theorem existing_sound
    (s : σ)
    (feed : Tokenizer σ)
    (stands : feed.Stands .operand s) :
    Sound .existing s (existing feed).plain := by
  refine ⟨fun {t rest} done => ?_⟩
  rw [plain_existing] at done
  rcases andThen_eq_ok done with ⟨token, feed₁, read, done⟩
  rcases terminal_of_reading stands read with ⟨s₁, terminal, stands₁, _⟩
  have le := size_le_of_reading read
  split at done
  case isTrue isOpen =>
    have shorter : size feed₁ < size feed :=
      size_lt_of_reading read (by simp [isOpen])
    rcases andThen_eq_ok done with ⟨expr, feed₂, second, done⟩
    rcases (existing_sound s₁ feed₁ (stands₁ _)).derives second with
      ⟨s₂, derives, stands₂⟩
    rcases andThen_eq_ok done with ⟨_, feed₃, expected, done⟩
    rcases terminal_of_expecting stands₂ expected with
      ⟨_, s₃, closing, isClose, stands₃⟩
    cases done
    exact ⟨s₃, .existingParens terminal isOpen derives closing isClose, stands₃ _⟩
  case isFalse =>
    cases found : token.name? with
    | none =>
        rw [found] at done
        cases done
    | some name =>
        rw [found] at done
        rcases andThen_eq_ok done with ⟨indices, feed₂, second, done⟩
        rcases (indices_sound s₁ feed₁ (stands₁ _)).derives second with
          ⟨s₂, derives, stands₂⟩
        cases done
        exact ⟨s₂, .existing terminal (name?_eq_some_iff.mp found) derives,
          stands₂⟩
termination_by (size feed, 1)
decreasing_by all_goals (simp only [Prod.lex_def]; omega)

theorem primary_sound
    (s : σ)
    (feed : Tokenizer σ)
    (stands : feed.Stands .operand s) :
    Sound .primary s (primary feed).plain := by
  refine ⟨fun {t rest} done => ?_⟩
  rw [plain_primary] at done
  rcases andThen_eq_ok done with ⟨token, feed₁, read, done⟩
  rcases terminal_of_reading stands read with ⟨s₁, terminal, stands₁, _⟩
  have le := size_le_of_reading read
  cases constant : constant? token with
  | some value =>
      rw [constant] at done
      cases done
      exact ⟨s₁, .literal terminal (constant?_eq_some_iff.mp constant), stands₁ _⟩
  | none =>
      rw [constant] at done
      dsimp only at done
      split at done
      case isTrue isOpen =>
        have shorter : size feed₁ < size feed :=
          size_lt_of_reading read (by simp [isOpen])
        rcases andThen_eq_ok done with ⟨expr, feed₂, second, done⟩
        rcases (conditional_sound s₁ feed₁ (stands₁ _)).derives second with
          ⟨s₂, derives, stands₂⟩
        rcases andThen_eq_ok done with ⟨_, feed₃, expected, done⟩
        rcases terminal_of_expecting stands₂ expected with
          ⟨_, s₃, closing, isClose, stands₃⟩
        cases done
        exact ⟨s₃, .parens terminal isOpen derives closing isClose, stands₃ _⟩
      case isFalse =>
        cases found : token.name? with
        | none =>
            rw [found] at done
            cases done
        | some name =>
            rw [found] at done
            exact (named_sound s terminal (name?_eq_some_iff.mp found)
              (constant?_eq_none_iff.mp constant) feed₁ (stands₁ _)).derives done
termination_by (size feed, 2)
decreasing_by all_goals (simp only [Prod.lex_def]; omega)

theorem named_sound
    (s : σ)
    {s₁ : σ}
    {token : Token}
    {name : String}
    (terminal : Terminal .operand s token s₁)
    (isName : Name token name)
    (notLiteral : ∀ value, ¬ Literal token value)
    (feed : Tokenizer σ)
    (stands : feed.Stands .operator s₁) :
    Sound .primary s (named name feed).plain := by
  refine ⟨fun {t rest} done => ?_⟩
  rw [plain_named] at done
  rcases andThen_eq_ok done with ⟨opening, feed₁, read, done⟩
  rcases terminal_of_reading stands read with ⟨s₂, terminal₁, stands₁, back⟩
  split at done
  case isTrue isOpen =>
    have shorter : size feed₁ < size feed :=
      size_lt_of_reading read (by simp [isOpen])
    rcases andThen_eq_ok done with ⟨closing, feed₂, read₂, done⟩
    rcases terminal_of_reading (stands₁ _) read₂ with
      ⟨s₃, terminal₂, stands₂, back₂⟩
    split at done
    case isTrue isClose =>
      cases done
      exact ⟨s₃, .emptyCall terminal isName notLiteral terminal₁ isOpen
        terminal₂ isClose, stands₂ _⟩
    case isFalse =>
      have le := size_unget_le_of_reading read₂
      rcases andThen_eq_ok done with ⟨arguments, feed₃, third, done⟩
      rcases (arguments_sound s₂ _ back₂).derives third with ⟨s₄, derives, stands₄⟩
      cases done
      exact ⟨s₄, .call terminal isName notLiteral terminal₁ isOpen derives,
        stands₄⟩
  case isFalse =>
    have le := size_unget_le_of_reading read
    rcases andThen_eq_ok done with ⟨indices, feed₂, second, done⟩
    rcases (indices_sound s₁ _ back).derives second with ⟨s₃, derives, stands₃⟩
    cases done
    exact ⟨s₃, .variable terminal isName notLiteral derives, stands₃⟩
termination_by (size feed, 1)
decreasing_by all_goals (simp only [Prod.lex_def]; omega)

theorem arguments_sound
    (s : σ)
    (feed : Tokenizer σ)
    (stands : feed.Stands .operand s) :
    Sound .arguments s (arguments feed).plain := by
  refine ⟨fun {ts rest} done => ?_⟩
  rw [plain_arguments] at done
  rcases andThen_eq_ok done with ⟨argument, feed₁, first, done⟩
  have le := size_le_of_plain first
  rcases (conditional_sound s feed stands).derives first with
    ⟨s₁, derives, stands₁⟩
  rcases andThen_eq_ok done with ⟨token, feed₂, read, done⟩
  rcases terminal_of_reading stands₁ read with ⟨s₂, terminal, stands₂, _⟩
  split at done
  case isTrue isComma =>
    have shorter : size feed₂ < size feed₁ :=
      size_lt_of_reading read (by simp [isComma])
    rcases andThen_eq_ok done with ⟨others, feed₃, second, done⟩
    rcases (arguments_sound s₂ feed₂ (stands₂ _)).derives second with
      ⟨s₃, derivesOthers, stands₃⟩
    cases done
    exact ⟨s₃, .argument derives terminal isComma derivesOthers, stands₃⟩
  case isFalse =>
    split at done
    case isTrue isClose =>
      cases done
      exact ⟨s₂, .lastArgument derives terminal isClose, stands₂ _⟩
    case isFalse => cases done
termination_by (size feed, 2 * ladder.length + 8)
decreasing_by all_goals (simp only [Prod.lex_def, true_and]; omega)

theorem indices_sound
    (s : σ)
    (feed : Tokenizer σ)
    (stands : feed.Stands .operator s) :
    Sound .indices s (indices feed).plain := by
  refine ⟨fun {ts rest} done => ?_⟩
  rw [plain_indices] at done
  rcases andThen_eq_ok done with ⟨token, feed₁, read, done⟩
  rcases terminal_of_reading stands read with ⟨s₁, terminal, stands₁, back⟩
  split at done
  case isFalse =>
    cases done
    exact ⟨s, .noIndex, back⟩
  case isTrue isOpen =>
    have shorter : size feed₁ < size feed :=
      size_lt_of_reading read (by simp [isOpen])
    rcases andThen_eq_ok done with ⟨index, feed₂, first, done⟩
    have le := size_le_of_plain first
    rcases (conditional_sound s₁ feed₁ (stands₁ _)).derives first with
      ⟨s₂, derives, stands₂⟩
    rcases andThen_eq_ok done with ⟨_, feed₃, expected, done⟩
    have le' := size_le_of_expecting expected
    rcases terminal_of_expecting stands₂ expected with
      ⟨_, s₃, closing, isClose, stands₃⟩
    rcases andThen_eq_ok done with ⟨others, feed₄, second, done⟩
    rcases (indices_sound s₃ feed₃ (stands₃ _)).derives second with
      ⟨s₄, derivesOthers, stands₄⟩
    cases done
    exact ⟨s₄, .index terminal isOpen derives closing isClose derivesOthers,
      stands₄⟩
termination_by (size feed, 0)
decreasing_by all_goals (simp only [Prod.lex_def]; omega)

end

/-- A tree that the parser returns for the whole input is spelled by it. -/
theorem spells_of_wholeExpression
    {s : σ}
    {t : Expr}
    (done : (wholeExpression (Tokenizer.ofSource s)).1 = .ok t) :
    Spells s t := by
  rcases whole : wholeExpression (Tokenizer.ofSource s) with ⟨result, rest⟩
  rw [whole] at done
  obtain rfl : result = .ok t := done
  rw [wholeExpression_eq] at whole
  rcases andThen_eq_ok whole with ⟨t', feed₁, first, whole⟩
  rcases (conditional_sound s _ (Tokenizer.stands_ofSource _ s)).derives first with
    ⟨s₁, derives, stands₁⟩
  rcases andThen_eq_ok whole with ⟨_, feed₂, expected, whole⟩
  rcases terminal_of_expecting stands₁ expected with
    ⟨token, s₂, terminal, isEnd, _⟩
  cases whole
  exact ⟨s₁, token, s₂, derives, terminal, isEnd⟩

end Formula.Grammar
