import Formula.Proofs.Grammar.Completions
import Formula.Proofs.Grammar.Sound

/-!
# Prefixes that can be completed

Where a parser meets a token that it does not expect, what was read before the
token can be completed: with operands that are missing, and with the marks that
close what is open.  There is one statement for each function of the parser, and
the recursion is that of the functions.
-/

namespace Formula.Grammar

open Parse
open Tokenizer (ofSource)
open TokenFeed (size)
open Result (andThen)

/-- A parser gives up at a malformed token, or at one that it does not expect and
in front of which the text can be completed. -/
inductive GivesUp
    (completes : Reader → Prop)
    (e : Error)
    (rest : Tokenizer Reader) :
    Prop where
  | malformed :
      rest.token.kind = .error → e = fault rest → GivesUp completes e rest
  | unexpected {s : Reader} {mode : Mode} {expected : Expectation} :
      completes s → rest = (ofSource s).scan mode.flags →
        rest.token.kind ≠ .error →
          e = rest.token.unexpected expected → GivesUp completes e rest

theorem GivesUp.imp
    {completes completes' : Reader → Prop}
    {e : Error}
    {rest : Tokenizer Reader}
    (givesUp : GivesUp completes e rest)
    (implies : ∀ s, completes s → completes' s) :
    GivesUp completes' e rest := by
  cases givesUp with
  | malformed malformed isFault => exact .malformed malformed isFault
  | unexpected completes scanned wellFormed isError =>
      exact .unexpected (implies _ completes) scanned wellFormed isError

/-- If a step from a reader gives up, what was read can be completed to what it
asks for. -/
structure Viable {α : Type}
    (spans : α → List Char → List Char → Prop)
    (s : Reader)
    (result : Result (Tokenizer Reader) α) :
    Prop where
  givesUp : ∀ {e rest}, result = (.error e, rest) →
    GivesUp (fun s' => ∃ yield, Completable s s' (spans yield)) e rest

section

variable {α β : Type} {s s₁ : Reader} {feed : Tokenizer Reader}

theorem Viable.ok
    {spans : α → List Char → List Char → Prop}
    {value : α}
    {rest : Tokenizer Reader} :
    Viable spans s (.ok value, rest) where
  givesUp failed := by cases failed

/-- What a part can be completed to makes a completion of the whole. -/
theorem Viable.imp
    {spans spans' : α → List Char → List Char → Prop}
    {result : Result (Tokenizer Reader) α}
    (viable : Viable spans s₁ result)
    (implies : ∀ yield s', Completable s₁ s' (spans yield) →
      Completable s s' (spans' yield)) :
    Viable spans' s result where
  givesUp failed := by
    refine (viable.givesUp failed).imp fun s' completable => ?_
    rcases completable with ⟨yield, completable⟩
    exact ⟨yield, implies yield s' completable⟩

theorem Viable.andThen
    {spans : β → List Char → List Char → Prop}
    {result : Result (Tokenizer Reader) α}
    {next : α → Tokenizer Reader → Result (Tokenizer Reader) β}
    {whole : α → β}
    (first : Viable (fun yield => spans (whole yield)) s result)
    (second : ∀ value rest, result = (.ok value, rest) →
      Viable spans s (next value rest)) :
    Viable spans s (andThen result next) := by
  rcases result with ⟨e | value, rest⟩
  · refine ⟨fun failed => ?_⟩
    cases failed
    refine (first.givesUp rfl).imp fun s' completable => ?_
    rcases completable with ⟨yield, completable⟩
    exact ⟨whole yield, completable⟩
  · exact second value rest rfl

/-- A token is read: it is malformed, or goes on, or is not expected. -/
theorem Viable.reading
    {spans : β → List Char → List Char → Prop}
    {mode : Mode}
    {next : Token → Tokenizer Reader → Result (Tokenizer Reader) β}
    (stands : feed.Stands mode s₁)
    (more : ∀ token s₂ rest, Parse.reading mode feed = (.ok token, rest) →
      Terminal mode s₁ token s₂ → (∀ next, rest.Stands next s₂) →
        (TokenFeed.unget rest).Stands mode s₁ →
          (∀ expected yield, Completable s s₁ (spans yield) →
            Viable spans s (.error (token.unexpected expected), rest)) →
              Viable spans s (next token rest)) :
    Viable spans s (Result.andThen (Parse.reading mode feed) next) := by
  rcases read : Parse.reading mode feed with ⟨e | token, rest⟩
  · refine ⟨fun failed => ?_⟩
    cases failed
    rw [Parse.reading] at read
    rcases Prod.mk.inj read with ⟨found, rfl⟩
    split at found
    case isTrue malformed =>
        exact .malformed malformed (Except.error.inj found).symm
    case isFalse => cases found
  · rcases terminal_of_reading stands read with ⟨s₂, terminal, stands₂, back⟩
    refine more token s₂ rest read terminal stands₂ back
      fun expected yield completable => ?_
    refine ⟨fun failed => ?_⟩
    rcases reading_eq_ok read with ⟨rfl, rfl, wellFormed⟩
    cases failed
    exact .unexpected ⟨yield, completable⟩ stands wellFormed rfl

/-- Where a token is expected that does not stand there, it can be written. -/
theorem expecting_viable
    {spans : List Char → List Char → Prop}
    (kind : TokenKind)
    (expected : Expectation)
    (stands : feed.Stands .operator s)
    (writable : Writable spans) :
    Viable (fun _ => spans) s (expecting kind expected feed) :=
  .reading stands fun token s₂ rest _ _ _ _ rejects => by
    split
    · exact .ok
    · exact rejects expected () (writable.completable s)

end

mutual

theorem conditional_viable
    (s : Reader)
    (feed : Tokenizer Reader)
    (stands : feed.Stands .operand s) :
    Viable (fun t => (Spans .ternary · · t)) s (conditional feed).plain := by
  rw [plain_conditional]
  refine .andThen
    ((levels_viable 0 ladder rfl (Nat.zero_le _) s feed stands).imp
      fun _ _ completable =>
        completable.imp fun _ _ spans past => .plainTernary (spans past))
    fun condition feed₁ first => ?_
  have le := size_le_of_plain first
  rcases
    (levels_sound 0 ladder rfl (Nat.zero_le _) s feed stands).derives first with
    ⟨s₁, derives, stands₁⟩
  refine .reading stands₁ fun token s₂ feed₂ read question stands₂ _ _ => ?_
  split
  case isFalse => exact .ok
  case isTrue isQuestion =>
    have shorter : size feed₂ < size feed₁ :=
      size_lt_of_reading read (by simp [isQuestion])
    have asked := question.moves_kind isQuestion nofun
    refine .andThen
      ((conditional_viable s₂ feed₂ (stands₂ _)).imp fun yes _ completable =>
        (((completable.closed (writable_colon.behind writable_ternary)).after
          asked).after derives.movable).imp fun _ _ => Behind.conditional)
      fun yes feed₃ second => ?_
    have le' := size_le_of_plain second
    rcases (conditional_sound s₂ feed₂ (stands₂ _)).derives second with
      ⟨s₃, derivesYes, stands₃⟩
    have written := expecting_viable .colon .colon stands₃ writable_colon
    refine .andThen
      (written.imp fun _ _ completable =>
        ((((completable.closed writable_ternary).after derivesYes.movable).after
          asked).after derives.movable).imp fun _ _ => Behind.conditional)
      fun _ feed₄ expected => ?_
    have le'' := size_le_of_expecting expected
    rcases terminal_of_expecting stands₃ expected with
      ⟨_, s₄, colon, isColon, stands₄⟩
    refine .andThen
      ((conditional_viable s₄ feed₄ (stands₄ _)).imp fun no _ completable =>
        ((((completable.after (colon.moves_kind isColon nofun)).after
          derivesYes.movable).after asked).after derives.movable).imp
          fun _ _ => Behind.conditional)
      fun no feed₅ third => ?_
    exact .ok
termination_by (size feed, 2 * ladder.length + 7)
decreasing_by all_goals (simp only [Prod.lex_def, true_and]; omega)

theorem levels_viable
    (rank : Nat)
    (ls : List Level)
    (left : ladder.drop rank = ls)
    (within : rank ≤ ranks)
    (s : Reader)
    (feed : Tokenizer Reader)
    (stands : feed.Stands .operand s) :
    Viable (fun t => (Spans (.binary rank) · · t)) s (levels ls feed).plain := by
  match ls with
  | [] =>
      rw [plain_levels_nil]
      have atEnd : rank = ranks :=
        Nat.le_antisymm within (List.drop_eq_nil_iff.mp left)
      subst atEnd
      exact (negation_viable s feed stands).imp fun _ _ completable =>
        completable.imp fun _ _ spans past => .tightest (spans past)
  | level :: tighter =>
      rcases drop_ladder_cons left with ⟨lt, onLadder, left'⟩
      rw [plain_levels_cons]
      refine .andThen
        ((levels_viable (rank + 1) tighter left' lt s feed stands).imp
          fun _ _ completable =>
            completable.imp fun _ _ spans past => .tighter lt (spans past))
        fun operand feed₁ first => ?_
      have le := size_le_of_plain first
      rcases
        (levels_sound (rank + 1) tighter left' lt s feed stands).derives first with
        ⟨s₁, derives, stands₁⟩
      exact chain_viable rank level tighter onLadder left' lt s operand s₁ feed₁
        (.tighter lt derives) stands₁
termination_by (size feed, 2 * ls.length + 5)
decreasing_by
  all_goals
    simp only [Prod.lex_def, List.length_cons, List.length_nil, true_and]
    omega

theorem chain_viable
    (rank : Nat)
    (level : Level)
    (tighter : List Level)
    (onLadder : ladder[rank]? = some level)
    (left : ladder.drop (rank + 1) = tighter)
    (within : rank < ranks)
    (s : Reader)
    (operand : Expr)
    (s₁ : Reader)
    (feed : Tokenizer Reader)
    (derives : Derives (.binary rank) s operand s₁)
    (stands : feed.Stands .operator s₁) :
    Viable (fun t => (Spans (.binary rank) · · t)) s
      (chain level tighter operand feed).plain := by
  rw [plain_chain]
  refine .reading stands fun token s₂ feed₁ read terminal stands₁ _ _ => ?_
  cases found : level.op? token.kind with
  | none => exact .ok
  | some op =>
      have notEnd := Level.ne_endOfInput found
      have shorter : size feed₁ < size feed := size_lt_of_reading read notEnd
      rcases (op?_eq_some_iff onLadder).mp found with ⟨binary, ranked⟩
      have operator := terminal.moves notEnd fun _ moved => moved.kind_eq ▸ binary
      refine .andThen
        ((levels_viable (rank + 1) tighter left within s₂ feed₁ (stands₁ _)).imp
          fun right _ completable =>
            ((completable.after operator).after derives.movable).imp
              fun _ _ => Behind.binary ranked)
        fun right feed₂ second => ?_
      have le := size_le_of_plain second
      rcases
        (levels_sound (rank + 1) tighter left within s₂ feed₁ (stands₁ _)).derives
          second with
        ⟨s₃, derivesRight, stands₃⟩
      exact chain_viable rank level tighter onLadder left within s
        (.binary op operand right) s₃ feed₂
        (.binary derives terminal binary ranked derivesRight) stands₃
termination_by (size feed, 2 * tighter.length + 6)
decreasing_by all_goals (simp only [Prod.lex_def]; omega)

theorem negation_viable
    (s : Reader)
    (feed : Tokenizer Reader)
    (stands : feed.Stands .operand s) :
    Viable (fun t => (Spans .negation · · t)) s (negation feed).plain := by
  rw [plain_negation]
  refine .reading stands fun token s₁ feed₁ read terminal stands₁ back _ => ?_
  cases found : negation? token.kind with
  | some op =>
      have notEnd := negation?_ne_endOfInput found
      have shorter : size feed₁ < size feed := size_lt_of_reading read notEnd
      have negator := negation?_eq_some_iff.mp found
      have operator := terminal.moves notEnd fun _ moved => moved.kind_eq ▸ negator
      refine .andThen
        ((negation_viable s₁ feed₁ (stands₁ _)).imp fun _ _ completable =>
          (completable.after operator).imp fun _ _ => Behind.negation)
        fun operand feed₂ _ => ?_
      exact .ok
  | none =>
      have le := size_unget_le_of_reading read
      have notNegator := negation?_eq_none_iff.mp found
      -- A completion still begins with this token, or with a name:
      -- neither is a negator.
      refine (prefixed_viable s _ back).imp fun _ _ completable =>
        completable.imp ?_
      rintro piece rest ⟨opens, spans⟩ past
      rcases opens token s₁ terminal past with
        ⟨token', s₂, terminal', moved | plain⟩
      · exact .plainSign terminal' (moved.kind_eq ▸ notNegator) (spans past)
      · exact .plainSign terminal' plain.notNegator (spans past)
termination_by (size feed, 4)
decreasing_by all_goals (simp only [Prod.lex_def]; omega)

theorem prefixed_viable
    (s : Reader)
    (feed : Tokenizer Reader)
    (stands : feed.Stands .operand s) :
    Viable (fun t piece rest => Opens s piece rest ∧ Spans .sign piece rest t) s
      (prefixed feed).plain := by
  rw [plain_prefixed]
  refine .reading stands fun token s₁ feed₁ read terminal stands₁ back _ => ?_
  cases found : prefixOp? token.kind with
  | some op =>
      have notEnd := prefixOp?_ne_endOfInput found
      have shorter : size feed₁ < size feed := size_lt_of_reading read notEnd
      have isSign := prefixOp?_eq_some_iff.mp found
      refine .andThen
        ((prefixed_viable s₁ feed₁ (stands₁ _)).imp fun _ _ completable =>
          completable.opened terminal notEnd fun _ _ behind =>
            Behind.sign (behind.imp
              (fun _ _ lexeme => lexeme.imp fun _ moved => moved.kind_eq ▸ isSign)
              fun _ _ opened => opened.2))
        fun operand feed₂ _ => ?_
      exact .ok
  | none =>
      dsimp only
      split
      case isTrue isDefined =>
        have shorter : size feed₁ < size feed :=
          size_lt_of_reading read (by simp [isDefined])
        refine .andThen
          ((existing_viable s₁ feed₁ (stands₁ _)).imp fun _ _ completable =>
            completable.opened terminal (isDefined ▸ nofun) fun _ _ behind =>
              Behind.defined (behind.imp
                (fun _ _ lexeme =>
                  lexeme.imp fun _ moved => moved.kind_eq.trans isDefined)
                fun _ _ => id))
          fun operand feed₂ _ => ?_
        exact .ok
      case isFalse notDefined =>
        have le := size_unget_le_of_reading read
        have notSign := prefixOp?_eq_none_iff.mp found
        refine (primary_viable s _ back).imp fun _ _ completable =>
          completable.imp ?_
        rintro piece rest ⟨opens, spans⟩
        refine ⟨opens, fun past => ?_⟩
        rcases opens token s₁ terminal past with
          ⟨token', s₂, terminal', moved | plain⟩
        · exact .plainPrimary terminal' (moved.kind_eq ▸ notSign)
            (moved.kind_eq ▸ notDefined) (spans past)
        · exact .plainPrimary terminal' plain.notSign plain.notDefined (spans past)
termination_by (size feed, 3)
decreasing_by all_goals (simp only [Prod.lex_def]; omega)

theorem existing_viable
    (s : Reader)
    (feed : Tokenizer Reader)
    (stands : feed.Stands .operand s) :
    Viable (fun t => (Spans .existing · · t)) s (existing feed).plain := by
  rw [plain_existing]
  refine .reading stands fun token s₁ feed₁ read terminal stands₁ _ rejects => ?_
  have le := size_le_of_reading read
  split
  case isTrue isOpen =>
    have shorter : size feed₁ < size feed :=
      size_lt_of_reading read (by simp [isOpen])
    have opened := terminal.moves_kind isOpen nofun
    have closes := writable_mark .operator .closeParen
    refine .andThen
      ((existing_viable s₁ feed₁ (stands₁ _)).imp fun _ _ completable =>
        ((completable.closed closes).after opened).imp
          fun _ _ => Behind.existingParens)
      fun expr feed₂ second => ?_
    rcases (existing_sound s₁ feed₁ (stands₁ _)).derives second with
      ⟨s₂, derives, stands₂⟩
    have written := expecting_viable .closeParen .closeParen stands₂ closes
    refine .andThen
      (written.imp fun _ _ completable =>
        ((completable.after derives.movable).after opened).imp
          fun _ _ => Behind.existingParens)
      fun _ feed₃ _ => ?_
    exact .ok
  case isFalse =>
    cases found : token.name? with
    | none => exact rejects .identifier _ (writable_existing.completable s)
    | some name =>
        have isName := name?_eq_some_iff.mp found
        have named :=
          terminal.moves (fun isEnd => isName.not_closing (isEnd ▸ .endOfInput))
            fun _ moved => moved.name isName
        refine .andThen
          ((indices_viable s₁ feed₁ (stands₁ _)).imp fun _ _ completable =>
            (completable.after named).imp fun _ _ => Behind.existing)
          fun indices feed₂ _ => ?_
        exact .ok
termination_by (size feed, 1)
decreasing_by all_goals (simp only [Prod.lex_def]; omega)

theorem primary_viable
    (s : Reader)
    (feed : Tokenizer Reader)
    (stands : feed.Stands .operand s) :
    Viable (fun t piece rest => Opens s piece rest ∧ Spans .primary piece rest t) s
      (primary feed).plain := by
  rw [plain_primary]
  refine .reading stands fun token s₁ feed₁ read terminal stands₁ _ rejects => ?_
  have le := size_le_of_reading read
  cases constant : constant? token with
  | some value => exact .ok
  | none =>
      dsimp only
      split
      case isTrue isOpen =>
        have shorter : size feed₁ < size feed :=
          size_lt_of_reading read (by simp [isOpen])
        have closes := writable_mark .operator .closeParen
        have parens : ∀ {t piece rest},
            Behind (Lexeme .operand · · (Moved token))
              (Behind (Spans .ternary · · t)
                (Lexeme .operator · · (·.kind = .closeParen)))
                piece rest → Spans .primary piece rest t :=
          fun behind => Behind.parens (behind.imp
            (fun _ _ lexeme =>
              lexeme.imp fun _ moved => moved.kind_eq.trans isOpen)
            fun _ _ => id)
        refine .andThen
          ((conditional_viable s₁ feed₁ (stands₁ _)).imp fun _ _ completable =>
            (completable.closed closes).opened terminal (isOpen ▸ nofun)
              fun _ _ => parens)
          fun expr feed₂ second => ?_
        rcases (conditional_sound s₁ feed₁ (stands₁ _)).derives second with
          ⟨s₂, derives, stands₂⟩
        refine .andThen
          ((expecting_viable .closeParen .closeParen stands₂ closes).imp
            fun _ _ completable =>
              (completable.after derives.movable).opened terminal
                (isOpen ▸ nofun) fun _ _ => parens)
          fun _ feed₃ _ => ?_
        exact .ok
      case isFalse =>
        cases found : token.name? with
        | none => exact rejects .operand _ ((writable_primary s).completable s)
        | some name =>
            exact named_viable s terminal (name?_eq_some_iff.mp found)
              (constant?_eq_none_iff.mp constant) feed₁ (stands₁ _)
termination_by (size feed, 2)
decreasing_by all_goals (simp only [Prod.lex_def]; omega)

theorem named_viable
    (s : Reader)
    {s₁ : Reader}
    {token : Token}
    {name : String}
    (terminal : Terminal .operand s token s₁)
    (isName : Name token name)
    (notLiteral : ∀ value, ¬ Literal token value)
    (feed : Tokenizer Reader)
    (stands : feed.Stands .operator s₁) :
    Viable (fun t piece rest => Opens s piece rest ∧ Spans .primary piece rest t) s
      (named name feed).plain := by
  have notEnd : token.kind ≠ .endOfInput :=
    fun isEnd => isName.not_closing (isEnd ▸ .endOfInput)
  have names : ∀ piece rest, Lexeme .operand piece rest (Moved token) →
      Lexeme .operand piece rest fun token =>
        Name token name ∧ ∀ value, ¬ Literal token value :=
    fun _ _ lexeme => lexeme.imp fun _ moved =>
      ⟨moved.name isName, moved.notLiteral notLiteral⟩
  rw [plain_named]
  refine .reading stands fun opening s₂ feed₁ read terminal₁ stands₁ back _ => ?_
  split
  case isTrue isOpen =>
    have shorter : size feed₁ < size feed :=
      size_lt_of_reading read (by simp [isOpen])
    refine .reading (stands₁ _) fun closing s₃ feed₂ read₂ _ _ back₂ _ => ?_
    split
    case isTrue => exact .ok
    case isFalse =>
      have le := size_unget_le_of_reading read₂
      refine .andThen
        ((arguments_viable s₂ _ back₂).imp fun _ _ completable =>
          (completable.after (terminal₁.moves_kind isOpen nofun)).opened terminal
            notEnd fun _ _ behind =>
              Behind.call (behind.imp names fun _ _ => id))
        fun _ feed₃ _ => ?_
      exact .ok
  case isFalse =>
    have le := size_unget_le_of_reading read
    refine .andThen
      ((indices_viable s₁ _ back).imp fun _ _ completable =>
        completable.opened terminal notEnd fun _ _ behind =>
          Behind.variable (behind.imp names fun _ _ => id))
      fun _ feed₂ _ => ?_
    exact .ok
termination_by (size feed, 1)
decreasing_by all_goals (simp only [Prod.lex_def]; omega)

theorem arguments_viable
    (s : Reader)
    (feed : Tokenizer Reader)
    (stands : feed.Stands .operand s) :
    Viable (fun ts => (Spans .arguments · · ts)) s (arguments feed).plain := by
  have closes := writable_mark .operator .closeParen
  rw [plain_arguments]
  refine .andThen
    ((conditional_viable s feed stands).imp fun _ _ completable =>
      (completable.closed closes).imp fun _ _ => Behind.lastArgument)
    fun argument feed₁ first => ?_
  have le := size_le_of_plain first
  rcases (conditional_sound s feed stands).derives first with
    ⟨s₁, derives, stands₁⟩
  refine .reading stands₁ fun token s₂ feed₂ read terminal stands₂ _ rejects => ?_
  split
  case isTrue isComma =>
    have shorter : size feed₂ < size feed₁ :=
      size_lt_of_reading read (by simp [isComma])
    refine .andThen
      ((arguments_viable s₂ feed₂ (stands₂ _)).imp fun _ _ completable =>
        ((completable.after (terminal.moves_kind isComma nofun)).after
          derives.movable).imp fun _ _ => Behind.argument)
      fun others feed₃ _ => ?_
    exact .ok
  case isFalse =>
    split
    · exact .ok
    · refine rejects .closeParen _
        (?_ : Completable s s₁ (Spans .arguments · · [argument]))
      exact ((closes.completable s₁).after derives.movable).imp fun _ _ =>
        Behind.lastArgument
termination_by (size feed, 2 * ladder.length + 8)
decreasing_by all_goals (simp only [Prod.lex_def, true_and]; omega)

theorem indices_viable
    (s : Reader)
    (feed : Tokenizer Reader)
    (stands : feed.Stands .operator s) :
    Viable (fun ts => (Spans .indices · · ts)) s (indices feed).plain := by
  rw [plain_indices]
  refine .reading stands fun token s₁ feed₁ read terminal stands₁ _ _ => ?_
  split
  case isFalse => exact .ok
  case isTrue isOpen =>
    have shorter : size feed₁ < size feed :=
      size_lt_of_reading read (by simp [isOpen])
    have opened := terminal.moves_kind isOpen nofun
    have closes := writable_mark .operator .closeBracket
    have noMore :
        ∀ piece rest, Lexeme .operator piece rest (·.kind = .closeBracket) →
          Behind (Lexeme .operator · · (·.kind = .closeBracket))
            (Spans .indices · · []) piece rest :=
      fun piece rest lexeme =>
        ⟨piece, [], (List.append_nil piece).symm, lexeme, .noIndex⟩
    refine .andThen
      ((conditional_viable s₁ feed₁ (stands₁ _)).imp fun _ _ completable =>
        ((completable.closed (closes.imp noMore)).after opened).imp
          fun _ _ => Behind.index)
      fun index feed₂ first => ?_
    have le := size_le_of_plain first
    rcases (conditional_sound s₁ feed₁ (stands₁ _)).derives first with
      ⟨s₂, derives, stands₂⟩
    have written := expecting_viable .closeBracket .closeBracket stands₂ closes
    refine .andThen
      (written.imp fun _ _ completable =>
        (((completable.imp noMore).after derives.movable).after opened).imp
          fun _ _ => Behind.index)
      fun _ feed₃ expected => ?_
    have le' := size_le_of_expecting expected
    rcases terminal_of_expecting stands₂ expected with
      ⟨_, s₃, closing, isClose, stands₃⟩
    refine .andThen
      ((indices_viable s₃ feed₃ (stands₃ _)).imp fun _ _ completable =>
        (((completable.after (closing.moves_kind isClose nofun)).after
          derives.movable).after opened).imp fun _ _ => Behind.index)
      fun others feed₄ _ => ?_
    exact .ok
termination_by (size feed, 0)
decreasing_by all_goals (simp only [Prod.lex_def]; omega)

end

/-- A whole text is an expression, and the end of the input behind it. -/
def Whole (t : Expr) : List Char → List Char → Prop :=
  Behind (Spans .ternary · · t)
    fun piece rest =>
      rest = [] → Lexeme .operator piece rest (·.kind = .endOfInput)

theorem Whole.spells
    {t : Expr}
    {text : List Char}
    (whole : Whole t text []) :
    Spells (Reader.ofList text) t := by
  rcases whole with ⟨piece, blanks, rfl, spans, ends⟩
  rcases ends rfl (piece.reverse ++ []) with ⟨token, terminal, isEnd⟩
  rw [List.append_nil blanks] at spans terminal
  exact ⟨_, token, _, spans [], terminal, isEnd⟩

theorem wholeExpression_viable
    (s : Reader)
    (feed : Tokenizer Reader)
    (stands : feed.Stands .operand s) :
    Viable Whole s (wholeExpression feed) := by
  rw [wholeExpression_eq]
  refine .andThen
    ((conditional_viable s feed stands).imp fun _ _ completable =>
      completable.closed writable_end)
    fun expr feed₁ first => ?_
  rcases (conditional_sound s feed stands).derives first with
    ⟨s₁, derives, stands₁⟩
  refine .andThen
    ((expecting_viable .endOfInput .endOfExpression stands₁ writable_end).imp
      fun _ _ completable => completable.after derives.movable)
    fun _ feed₂ _ => ?_
  exact .ok

end Formula.Grammar
