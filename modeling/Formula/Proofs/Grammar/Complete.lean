import Formula.Proofs.Grammar.Sound
import Formula.Proofs.Parse.Interchange

/-!
# Completeness of the parser

Whatever the grammar derives, the parser finds, provided that what follows could
not be taken for more of it.  This is by induction on the derivation.  A form of
one rank is a chain whose left operand has that rank itself, so what the
induction carries is not that the parser returns the form, but that it gets as
far as resuming the chain behind it.
-/

namespace Formula.Grammar

open Parse

variable {σ : Type} [CharSource σ]

/-! ## What may follow -/

/-- The tokens that do not go on with a form of a rank: no brackets, and no
operators of this rank or of a tighter one. -/
structure Ends (rank : Nat) (kind : TokenKind) : Prop where
  notParen : kind ≠ .openParen
  notBracket : kind ≠ .openBracket
  looser : ∀ {op r}, binary? kind = some op → rank? op = some r → r < rank

/-- What comes next does not go on with a form of a rank. -/
def Followed (rank : Nat) (s : σ) : Prop :=
  ∃ token s', Terminal .operator s token s' ∧ Ends rank token.kind

/-- The tokens that can follow a whole expression. -/
inductive Closing : TokenKind → Prop where
  | colon : Closing .colon
  | comma : Closing .comma
  | semicolon : Closing .semicolon
  | closeParen : Closing .closeParen
  | closeBracket : Closing .closeBracket
  | endOfInput : Closing .endOfInput

/-- What comes next can follow a whole expression. -/
def Closed (s : σ) : Prop :=
  ∃ token s', Terminal .operator s token s' ∧ Closing token.kind

theorem lt_ranks
    {op : Op}
    {rank : Nat}
    (ranked : rank? op = some rank) :
    rank < ranks := by
  cases op <;> cases ranked <;> decide

theorem Ends.mono
    {rank rank' : Nat}
    {kind : TokenKind}
    (ends : Ends rank kind)
    (le : rank ≤ rank') :
    Ends rank' kind :=
  ⟨ends.notParen, ends.notBracket, fun binary ranked =>
    Nat.lt_of_lt_of_le (ends.looser binary ranked) le⟩

theorem Followed.mono
    {rank rank' : Nat}
    {s : σ}
    (followed : Followed rank s)
    (le : rank ≤ rank') :
    Followed rank' s := by
  rcases followed with ⟨token, s', terminal, ends⟩
  exact ⟨token, s', terminal, ends.mono le⟩

/-- No operator is tighter than the tightest. -/
theorem Followed.tightest
    {rank : Nat}
    {s : σ}
    (followed : Followed rank s) :
    Followed ranks s := by
  rcases followed with ⟨token, s', terminal, ends⟩
  exact ⟨token, s', terminal, ends.notParen, ends.notBracket,
    fun _ ranked => lt_ranks ranked⟩

theorem Ends.question : Ends 0 .question :=
  ⟨nofun, nofun, nofun⟩

theorem Closing.ends
    {kind : TokenKind}
    (closing : Closing kind) :
    Ends 0 kind := by
  cases closing <;> exact ⟨nofun, nofun, nofun⟩

theorem Closing.ne_question
    {kind : TokenKind}
    (closing : Closing kind) :
    kind ≠ .question := by
  cases closing <;> exact nofun

/-- An operator goes on with forms of its own rank, but not with tighter ones. -/
theorem Ends.operator
    {rank : Nat}
    {kind : TokenKind}
    {op : Op}
    (binary : binary? kind = some op)
    (ranked : rank? op = some rank) :
    Ends (rank + 1) kind := by
  refine ⟨?_, ?_, ?_⟩
  · rintro rfl
    cases binary
  · rintro rfl
    cases binary
  · intro op' rank' binary' ranked'
    obtain rfl := Option.some.inj (binary.symm.trans binary')
    obtain rfl := Option.some.inj (ranked.symm.trans ranked')
    exact Nat.lt_succ_self _

theorem Name.ne_openParen
    {token : Token}
    {name : String}
    (isName : Name token name) :
    token.kind ≠ .openParen := by
  intro isOpen
  rcases isName with isKind | isKind | ⟨isKeyword, _, _⟩
  · simp [isOpen] at isKind
  · simp [isOpen] at isKind
  · simp [isOpen, TokenKind.isKeyword] at isKeyword

theorem Name.not_closing
    {token : Token}
    {name : String}
    (isName : Name token name) :
    ¬ Closing token.kind := by
  intro closing
  rcases isName with isKind | isKind | ⟨isKeyword, _, _⟩
  · simp [isKind] at closing
    cases closing
  · simp [isKind] at closing
    cases closing
  · cases kind : token.kind <;>
      simp [kind, TokenKind.isKeyword] at isKeyword closing <;>
      cases closing

theorem Negator.not_closing
    {kind : TokenKind}
    {op : Op}
    (negator : Negator kind op) :
    ¬ Closing kind := by
  cases negator <;> exact nofun

theorem Sign.not_closing
    {kind : TokenKind}
    {op : Op}
    (isSign : Sign kind op) :
    ¬ Closing kind := by
  cases isSign <;> exact nofun

theorem Literal.not_closing
    {token : Token}
    {value : Value}
    (isLiteral : Literal token value) :
    ¬ Closing token.kind := by
  rcases isLiteral with
    isKind | isKind | isKind | isKind | isKind | ⟨isKind | isKind, _⟩ |
      ⟨isKind | isKind, _⟩ <;>
    rw [isKind] <;> exact nofun

/-- Everything but a list of indices starts with a token that closes nothing. -/
theorem Derives.starts
    {symbol : Symbol}
    {s s' : σ}
    {yield : symbol.Yield}
    (derives : Derives symbol s yield s')
    (notIndices : symbol ≠ .indices) :
    ∃ token s₁, Terminal .operand s token s₁ ∧ ¬ Closing token.kind := by
  induction derives with
  | plainTernary _ ih => exact ih nofun
  | conditional _ _ _ _ _ _ _ ih => exact ih nofun
  | tighter _ _ ih => exact ih nofun
  | binary _ _ _ _ _ ih => exact ih nofun
  | tightest _ ih => exact ih nofun
  | negation terminal negator => exact ⟨_, _, terminal, negator.not_closing⟩
  | plainSign _ _ _ ih => exact ih nofun
  | sign terminal isSign => exact ⟨_, _, terminal, isSign.not_closing⟩
  | defined terminal isDefined => exact ⟨_, _, terminal, isDefined ▸ nofun⟩
  | plainPrimary _ _ _ _ ih => exact ih nofun
  | existingParens terminal isOpen => exact ⟨_, _, terminal, isOpen ▸ nofun⟩
  | existing terminal isName => exact ⟨_, _, terminal, isName.not_closing⟩
  | literal terminal isLiteral => exact ⟨_, _, terminal, isLiteral.not_closing⟩
  | parens terminal isOpen => exact ⟨_, _, terminal, isOpen ▸ nofun⟩
  | emptyCall terminal isName => exact ⟨_, _, terminal, isName.not_closing⟩
  | call terminal isName => exact ⟨_, _, terminal, isName.not_closing⟩
  | «variable» terminal isName => exact ⟨_, _, terminal, isName.not_closing⟩
  | lastArgument _ _ _ ih => exact ih nofun
  | argument _ _ _ _ ih => exact ih nofun
  | noIndex => exact absurd rfl notIndices
  | index => exact absurd rfl notIndices

/-! ## Resuming a chain -/

/-- What the parser does on the first of some levels once it has the operand. -/
def resume (ls : List Level) (operand : Expr) (feed : Tokenizer σ) :
    Result (Tokenizer σ) Expr :=
  match ls with
  | [] => (.ok operand, feed)
  | level :: tighter => (chain level tighter operand feed).plain

/-- In front of a token that ends it, a chain is resumed in vain. -/
theorem resume_of_followed
    {rank : Nat}
    {s : σ}
    {feed : Tokenizer σ}
    (operand : Expr)
    (followed : Followed rank s)
    (stands : feed.Stands .operator s) :
    ∃ rest, resume (ladder.drop rank) operand feed = (.ok operand, rest) ∧
      rest.Stands .operator s := by
  cases left : ladder.drop rank with
  | nil => exact ⟨feed, rfl, stands⟩
  | cons level tighter =>
      rcases drop_ladder_cons left with ⟨_, onLadder, _⟩
      rcases followed with ⟨token, s', terminal, ends⟩
      rcases terminal.reading stands with ⟨rest, read, _, back⟩
      have none : level.op? token.kind = none := by
        refine Option.eq_none_iff_forall_ne_some.mpr fun op found => ?_
        rcases (op?_eq_some_iff onLadder).mp found with ⟨binary, ranked⟩
        exact absurd (ends.looser binary ranked) (Nat.lt_irrefl rank)
      refine ⟨TokenFeed.unget rest, ?_, back⟩
      rw [resume, plain_chain, read, Result.andThen_ok, none]

/-! ## Completeness -/

/-- The parser finds what a symbol derives between two positions. -/
def Complete : (symbol : Symbol) → σ → symbol.Yield → σ → Prop
  | .ternary, s, t, s' =>
    Closed s' → ∀ feed : Tokenizer σ, feed.Stands .operand s →
      ∃ rest, (conditional feed).plain = (.ok t, rest) ∧ rest.Stands .operator s'
  | .binary rank, s, t, s' =>
    Followed (rank + 1) s' → ∀ feed : Tokenizer σ, feed.Stands .operand s →
      ∃ rest, (levels (ladder.drop rank) feed).plain =
          resume (ladder.drop rank) t rest ∧
        rest.Stands .operator s'
  | .negation, s, t, s' =>
    Followed ranks s' → ∀ feed : Tokenizer σ, feed.Stands .operand s →
      ∃ rest, (negation feed).plain = (.ok t, rest) ∧ rest.Stands .operator s'
  | .sign, s, t, s' =>
    Followed ranks s' → ∀ feed : Tokenizer σ, feed.Stands .operand s →
      ∃ rest, (prefixed feed).plain = (.ok t, rest) ∧ rest.Stands .operator s'
  | .existing, s, t, s' =>
    Followed ranks s' → ∀ feed : Tokenizer σ, feed.Stands .operand s →
      ∃ rest, (existing feed).plain = (.ok t, rest) ∧ rest.Stands .operator s'
  | .primary, s, t, s' =>
    Followed ranks s' → ∀ feed : Tokenizer σ, feed.Stands .operand s →
      ∃ rest, (primary feed).plain = (.ok t, rest) ∧ rest.Stands .operator s'
  | .arguments, s, ts, s' =>
    ∀ feed : Tokenizer σ, feed.Stands .operand s →
      ∃ rest, (arguments feed).plain = (.ok ts, rest) ∧ rest.Stands .operator s'
  | .indices, s, ts, s' =>
    Followed ranks s' →
      (∃ token s₁, Terminal .operator s token s₁ ∧ token.kind ≠ .openParen) ∧
        ∀ feed : Tokenizer σ, feed.Stands .operator s →
          ∃ rest, (indices feed).plain = (.ok ts, rest) ∧ rest.Stands .operator s'

namespace Complete

variable {s s₁ s₂ s₃ s₄ s' : σ} {rank : Nat} {op : Op}
variable {t left right condition yes no operand : Expr} {ts : List Expr}
variable {token token' question colon opening closing comma : Token}
  {name : String}

/-- A form of a rank in front of something looser is found as a whole. -/
theorem found
    (complete : Complete (.binary rank) s t s')
    (followed : Followed rank s')
    {feed : Tokenizer σ}
    (stands : feed.Stands .operand s) :
    ∃ rest, (levels (ladder.drop rank) feed).plain = (.ok t, rest) ∧
      rest.Stands .operator s' := by
  rcases complete (followed.mono (Nat.le_succ rank)) feed stands with
    ⟨rest, reached, stands₁⟩
  rcases resume_of_followed t followed stands₁ with ⟨last, ended, stands₂⟩
  exact ⟨last, reached.trans ended, stands₂⟩

theorem plainTernary
    (complete : Complete (.binary 0) s t s') :
    Complete .ternary s t s' := by
  rintro ⟨token, s'', terminal, closing⟩ feed stands
  rcases complete.found ⟨token, s'', terminal, closing.ends⟩ stands with
    ⟨rest, reached, stands₁⟩
  rcases terminal.reading stands₁ with ⟨last, read, _, back⟩
  refine ⟨TokenFeed.unget last, ?_, back⟩
  rw [plain_conditional]
  rw [List.drop_zero] at reached
  rw [reached, Result.andThen_ok, read, Result.andThen_ok,
    if_neg closing.ne_question]

/-- Behind the colon of a conditional, what is left to do is to parse its second
branch. -/
theorem conditional_reached
    (complete : Complete (.binary 0) s condition s₁)
    (terminal : Terminal .operator s₁ question s₂)
    (isQuestion : question.kind = .question)
    (completeYes : Complete .ternary s₂ yes s₃)
    (terminal' : Terminal .operator s₃ colon s₄)
    (isColon : colon.kind = .colon)
    {feed : Tokenizer σ}
    (stands : feed.Stands .operand s) :
    ∃ rest, (Parse.conditional feed).plain =
        Result.andThen (Parse.conditional rest).plain
          (fun no rest => (.ok (Expr.conditional condition yes no), rest)) ∧
      rest.Stands .operand s₄ := by
  have ends : Ends 0 question.kind := isQuestion ▸ Ends.question
  have closing : Closing colon.kind := isColon ▸ Closing.colon
  rcases complete.found ⟨question, s₂, terminal, ends⟩ stands with
    ⟨feed₁, reached, stands₁⟩
  rcases terminal.reading stands₁ with ⟨feed₂, read, stands₂, _⟩
  rcases completeYes ⟨colon, s₄, terminal', closing⟩ feed₂ (stands₂ _) with
    ⟨feed₃, reachedYes, stands₃⟩
  rcases terminal'.expecting .colon isColon stands₃ with ⟨feed₄, expected, stands₄⟩
  refine ⟨feed₄, ?_, stands₄ _⟩
  rw [List.drop_zero] at reached
  rw [plain_conditional, reached, Result.andThen_ok, read, Result.andThen_ok,
    if_pos isQuestion, reachedYes, Result.andThen_ok, expected, Result.andThen_ok]

theorem conditional
    (complete : Complete (.binary 0) s condition s₁)
    (terminal : Terminal .operator s₁ question s₂)
    (isQuestion : question.kind = .question)
    (completeYes : Complete .ternary s₂ yes s₃)
    (terminal' : Terminal .operator s₃ colon s₄)
    (isColon : colon.kind = .colon)
    (completeNo : Complete .ternary s₄ no s') :
    Complete .ternary s (.conditional condition yes no) s' := by
  intro closed feed stands
  rcases complete.conditional_reached terminal isQuestion completeYes terminal'
    isColon stands with
    ⟨feed₁, reached, stands₁⟩
  rcases completeNo closed feed₁ stands₁ with ⟨feed₂, reachedNo, stands₂⟩
  refine ⟨feed₂, ?_, stands₂⟩
  rw [reached, reachedNo, Result.andThen_ok]

/-- The forms of a rank are the operands of its operators, in a chain. -/
theorem levels_drop
    (within : rank < ranks)
    (feed : Tokenizer σ) :
    (levels (ladder.drop rank) feed).plain =
      Result.andThen (levels (ladder.drop (rank + 1)) feed).plain
        (resume (ladder.drop rank)) := by
  have drop : ladder.drop rank = ladder[rank] :: ladder.drop (rank + 1) :=
    List.drop_eq_getElem_cons within
  rw [drop, plain_levels_cons]
  rfl

theorem tighter
    (within : rank < ranks)
    (complete : Complete (.binary (rank + 1)) s t s') :
    Complete (.binary rank) s t s' := by
  intro followed feed stands
  rcases complete.found followed stands with ⟨rest, reached, stands₁⟩
  refine ⟨rest, ?_, stands₁⟩
  rw [levels_drop within, reached, Result.andThen_ok]

/-- Behind an operator, what is left to do is to parse its second operand and to
resume. -/
theorem binary_reached
    (complete : Complete (.binary rank) s left s₁)
    (terminal : Terminal .operator s₁ token s₂)
    (isBinary : binary? token.kind = some op)
    (ranked : rank? op = some rank)
    {feed : Tokenizer σ}
    (stands : feed.Stands .operand s) :
    ∃ rest, (levels (ladder.drop rank) feed).plain =
        Result.andThen (levels (ladder.drop (rank + 1)) rest).plain
          (fun right rest =>
            resume (ladder.drop rank) (Expr.binary op left right) rest) ∧
      rest.Stands .operand s₂ := by
  have within : rank < ladder.length := lt_ranks ranked
  have onLadder : ladder[rank]? = some ladder[rank] :=
    List.getElem?_eq_getElem within
  rcases complete ⟨token, s₂, terminal, .operator isBinary ranked⟩ feed stands with
    ⟨feed₁, reached, stands₁⟩
  rcases terminal.reading stands₁ with ⟨feed₂, read, stands₂, _⟩
  refine ⟨feed₂, ?_, stands₂ _⟩
  rw [reached, List.drop_eq_getElem_cons within, resume, plain_chain, read,
    Result.andThen_ok, (op?_eq_some_iff onLadder).mpr ⟨isBinary, ranked⟩]
  rfl

theorem binary
    (complete : Complete (.binary rank) s left s₁)
    (terminal : Terminal .operator s₁ token s₂)
    (isBinary : binary? token.kind = some op)
    (ranked : rank? op = some rank)
    (completeRight : Complete (.binary (rank + 1)) s₂ right s') :
    Complete (.binary rank) s (.binary op left right) s' := by
  intro followed feed stands
  rcases complete.binary_reached terminal isBinary ranked stands with
    ⟨feed₁, reached, stands₁⟩
  rcases completeRight.found followed stands₁ with ⟨feed₂, reachedRight, stands₂⟩
  refine ⟨feed₂, ?_, stands₂⟩
  rw [reached, reachedRight, Result.andThen_ok]

theorem tightest
    (complete : Complete .negation s t s') :
    Complete (.binary ranks) s t s' := by
  intro followed feed stands
  rcases complete followed.tightest feed stands with ⟨rest, reached, stands₁⟩
  refine ⟨rest, ?_, stands₁⟩
  rw [show ladder.drop ranks = [] from rfl, plain_levels_nil, reached, resume]

theorem negation
    (terminal : Terminal .operand s token s₁)
    (negator : Negator token.kind op)
    (complete : Complete .negation s₁ operand s') :
    Complete .negation s (.unary op operand) s' := by
  intro followed feed stands
  rcases terminal.reading stands with ⟨feed₁, read, stands₁, _⟩
  rcases complete followed feed₁ (stands₁ _) with ⟨feed₂, reached, stands₂⟩
  refine ⟨feed₂, ?_, stands₂⟩
  rw [plain_negation, read, Result.andThen_ok, negation?_eq_some_iff.mpr negator]
  dsimp only
  rw [reached, Result.andThen_ok]

theorem plainSign
    (terminal : Terminal .operand s token s₁)
    (notNegator : ∀ op, ¬ Negator token.kind op)
    (complete : Complete .sign s t s') :
    Complete .negation s t s' := by
  intro followed feed stands
  rcases terminal.reading stands with ⟨feed₁, read, _, back⟩
  rcases complete followed _ back with ⟨feed₂, reached, stands₂⟩
  refine ⟨feed₂, ?_, stands₂⟩
  rw [plain_negation, read, Result.andThen_ok,
    negation?_eq_none_iff.mpr notNegator]
  exact reached

theorem sign
    (terminal : Terminal .operand s token s₁)
    (isSign : Sign token.kind op)
    (complete : Complete .sign s₁ operand s') :
    Complete .sign s (.unary op operand) s' := by
  intro followed feed stands
  rcases terminal.reading stands with ⟨feed₁, read, stands₁, _⟩
  rcases complete followed feed₁ (stands₁ _) with ⟨feed₂, reached, stands₂⟩
  refine ⟨feed₂, ?_, stands₂⟩
  rw [plain_prefixed, read, Result.andThen_ok, prefixOp?_eq_some_iff.mpr isSign]
  dsimp only
  rw [reached, Result.andThen_ok]

theorem defined
    (terminal : Terminal .operand s token s₁)
    (isDefined : token.kind = .defined)
    (complete : Complete .existing s₁ operand s') :
    Complete .sign s (.unary .defined operand) s' := by
  intro followed feed stands
  rcases terminal.reading stands with ⟨feed₁, read, stands₁, _⟩
  rcases complete followed feed₁ (stands₁ _) with ⟨feed₂, reached, stands₂⟩
  have notSign : prefixOp? token.kind = none := by
    rw [isDefined]
    rfl
  refine ⟨feed₂, ?_, stands₂⟩
  rw [plain_prefixed, read, Result.andThen_ok, notSign]
  dsimp only
  rw [if_pos isDefined, reached, Result.andThen_ok]

theorem plainPrimary
    (terminal : Terminal .operand s token s₁)
    (notSign : ∀ op, ¬ Sign token.kind op)
    (notDefined : token.kind ≠ .defined)
    (complete : Complete .primary s t s') :
    Complete .sign s t s' := by
  intro followed feed stands
  rcases terminal.reading stands with ⟨feed₁, read, _, back⟩
  rcases complete followed _ back with ⟨feed₂, reached, stands₂⟩
  refine ⟨feed₂, ?_, stands₂⟩
  rw [plain_prefixed, read, Result.andThen_ok, prefixOp?_eq_none_iff.mpr notSign]
  dsimp only
  rw [if_neg notDefined]
  exact reached

/-- What a closing parenthesis follows is followed by nothing that goes on with
it. -/
theorem followed_closeParen
    (terminal : Terminal .operator s closing s')
    (isClose : closing.kind = .closeParen) :
    Followed ranks s :=
  Followed.tightest ⟨closing, s', terminal, isClose ▸ Closing.closeParen.ends⟩

theorem existingParens
    (terminal : Terminal .operand s opening s₁)
    (isOpen : opening.kind = .openParen)
    (complete : Complete .existing s₁ t s₂)
    (terminal' : Terminal .operator s₂ closing s')
    (isClose : closing.kind = .closeParen) :
    Complete .existing s t s' := by
  intro _ feed stands
  rcases terminal.reading stands with ⟨feed₁, read, stands₁, _⟩
  rcases complete (followed_closeParen terminal' isClose) feed₁ (stands₁ _) with
    ⟨feed₂, reached, stands₂⟩
  rcases terminal'.expecting .closeParen isClose stands₂ with
    ⟨feed₃, expected, stands₃⟩
  refine ⟨feed₃, ?_, stands₃ _⟩
  rw [plain_existing, read, Result.andThen_ok, if_pos isOpen, reached,
    Result.andThen_ok, expected, Result.andThen_ok]

theorem existing
    (terminal : Terminal .operand s token s₁)
    (isName : Name token name)
    (complete : Complete .indices s₁ ts s') :
    Complete .existing s (.var name ts) s' := by
  intro followed feed stands
  rcases terminal.reading stands with ⟨feed₁, read, stands₁, _⟩
  rcases (complete followed).2 feed₁ (stands₁ _) with ⟨feed₂, reached, stands₂⟩
  refine ⟨feed₂, ?_, stands₂⟩
  rw [plain_existing, read, Result.andThen_ok, if_neg isName.ne_openParen,
    name?_eq_some_iff.mpr isName]
  dsimp only
  rw [reached, Result.andThen_ok]

theorem literal
    {value : Value}
    (terminal : Terminal .operand s token s')
    (isLiteral : Literal token value) :
    Complete .primary s (.literal value) s' := by
  intro _ feed stands
  rcases terminal.reading stands with ⟨feed₁, read, stands₁, _⟩
  refine ⟨feed₁, ?_, stands₁ _⟩
  rw [plain_primary, read, Result.andThen_ok, constant?_eq_some_iff.mpr isLiteral]

theorem parens
    (terminal : Terminal .operand s opening s₁)
    (isOpen : opening.kind = .openParen)
    (complete : Complete .ternary s₁ t s₂)
    (terminal' : Terminal .operator s₂ closing s')
    (isClose : closing.kind = .closeParen) :
    Complete .primary s t s' := by
  intro _ feed stands
  have closed : Closed s₂ := ⟨closing, s', terminal', isClose ▸ Closing.closeParen⟩
  rcases terminal.reading stands with ⟨feed₁, read, stands₁, _⟩
  rcases complete closed feed₁ (stands₁ _) with ⟨feed₂, reached, stands₂⟩
  rcases terminal'.expecting .closeParen isClose stands₂ with
    ⟨feed₃, expected, stands₃⟩
  have notConstant : constant? opening = none := by
    simp [constant?, Token.literalValue?, isOpen]
  refine ⟨feed₃, ?_, stands₃ _⟩
  rw [plain_primary, read, Result.andThen_ok, notConstant]
  dsimp only
  rw [if_pos isOpen, reached, Result.andThen_ok, expected, Result.andThen_ok]

/-- Behind a name that is no literal, the parser goes on with what the name is
for. -/
theorem primary_of_name
    (terminal : Terminal .operand s token s₁)
    (isName : Name token name)
    (notLiteral : ∀ value, ¬ Literal token value)
    {feed : Tokenizer σ}
    (stands : feed.Stands .operand s) :
    ∃ rest, (primary feed).plain = (named name rest).plain ∧
      rest.Stands .operator s₁ := by
  rcases terminal.reading stands with ⟨rest, read, stands₁, _⟩
  refine ⟨rest, ?_, stands₁ _⟩
  rw [plain_primary, read, Result.andThen_ok, constant?_eq_none_iff.mpr notLiteral]
  dsimp only
  rw [if_neg isName.ne_openParen, name?_eq_some_iff.mpr isName]

theorem emptyCall
    (terminal : Terminal .operand s token s₁)
    (isName : Name token name)
    (notLiteral : ∀ value, ¬ Literal token value)
    (terminal' : Terminal .operator s₁ opening s₂)
    (isOpen : opening.kind = .openParen)
    (terminal'' : Terminal .operand s₂ closing s')
    (isClose : closing.kind = .closeParen) :
    Complete .primary s (.call name []) s' := by
  intro _ feed stands
  rcases primary_of_name terminal isName notLiteral stands with
    ⟨feed₁, reached, stands₁⟩
  rcases terminal'.reading stands₁ with ⟨feed₂, read, stands₂, _⟩
  rcases terminal''.reading (stands₂ _) with ⟨feed₃, read', stands₃, _⟩
  refine ⟨feed₃, ?_, stands₃ _⟩
  rw [reached, plain_named, read, Result.andThen_ok, if_pos isOpen, read',
    Result.andThen_ok, if_pos isClose]

theorem call
    (terminal : Terminal .operand s token s₁)
    (isName : Name token name)
    (notLiteral : ∀ value, ¬ Literal token value)
    (terminal' : Terminal .operator s₁ opening s₂)
    (isOpen : opening.kind = .openParen)
    (terminal'' : Terminal .operand s₂ token' s₃)
    (notClosing : ¬ Closing token'.kind)
    (complete : Complete .arguments s₂ ts s') :
    Complete .primary s (.call name ts) s' := by
  intro _ feed stands
  rcases primary_of_name terminal isName notLiteral stands with
    ⟨feed₁, reached, stands₁⟩
  rcases terminal'.reading stands₁ with ⟨feed₂, read, stands₂, _⟩
  rcases terminal''.reading (stands₂ _) with ⟨feed₃, read', _, back⟩
  rcases complete _ back with ⟨feed₄, reachedArguments, stands₄⟩
  have notClose : token'.kind ≠ .closeParen :=
    fun isClose => notClosing (isClose ▸ .closeParen)
  refine ⟨feed₄, ?_, stands₄⟩
  rw [reached, plain_named, read, Result.andThen_ok, if_pos isOpen, read',
    Result.andThen_ok, if_neg notClose, reachedArguments, Result.andThen_ok]

theorem «variable»
    (terminal : Terminal .operand s token s₁)
    (isName : Name token name)
    (notLiteral : ∀ value, ¬ Literal token value)
    (complete : Complete .indices s₁ ts s') :
    Complete .primary s (.var name ts) s' := by
  intro followed feed stands
  rcases primary_of_name terminal isName notLiteral stands with
    ⟨feed₁, reached, stands₁⟩
  rcases complete followed with ⟨⟨next, s₂, terminal', notOpen⟩, completeIndices⟩
  rcases terminal'.reading stands₁ with ⟨feed₂, read, _, back⟩
  rcases completeIndices _ back with ⟨feed₃, reachedIndices, stands₃⟩
  refine ⟨feed₃, ?_, stands₃⟩
  rw [reached, plain_named, read, Result.andThen_ok, if_neg notOpen,
    reachedIndices, Result.andThen_ok]

theorem lastArgument
    (complete : Complete .ternary s t s₁)
    (terminal : Terminal .operator s₁ closing s')
    (isClose : closing.kind = .closeParen) :
    Complete .arguments s [t] s' := by
  intro feed stands
  have closed : Closed s₁ := ⟨closing, s', terminal, isClose ▸ Closing.closeParen⟩
  rcases complete closed feed stands with ⟨feed₁, reached, stands₁⟩
  rcases terminal.reading stands₁ with ⟨feed₂, read, stands₂, _⟩
  have notComma : closing.kind ≠ .comma := by simp [isClose]
  refine ⟨feed₂, ?_, stands₂ _⟩
  rw [plain_arguments, reached, Result.andThen_ok, read, Result.andThen_ok,
    if_neg notComma, if_pos isClose]

theorem argument
    (complete : Complete .ternary s t s₁)
    (terminal : Terminal .operator s₁ comma s₂)
    (isComma : comma.kind = .comma)
    (completeOthers : Complete .arguments s₂ ts s') :
    Complete .arguments s (t :: ts) s' := by
  intro feed stands
  have closed : Closed s₁ := ⟨comma, s₂, terminal, isComma ▸ Closing.comma⟩
  rcases complete closed feed stands with ⟨feed₁, reached, stands₁⟩
  rcases terminal.reading stands₁ with ⟨feed₂, read, stands₂, _⟩
  rcases completeOthers feed₂ (stands₂ _) with ⟨feed₃, reachedOthers, stands₃⟩
  refine ⟨feed₃, ?_, stands₃⟩
  rw [plain_arguments, reached, Result.andThen_ok, read, Result.andThen_ok,
    if_pos isComma, reachedOthers, Result.andThen_ok]

theorem noIndex : Complete .indices s [] s := by
  rintro ⟨token, s', terminal, ends⟩
  refine ⟨⟨token, s', terminal, ends.notParen⟩, fun feed stands => ?_⟩
  rcases terminal.reading stands with ⟨rest, read, _, back⟩
  refine ⟨TokenFeed.unget rest, ?_, back⟩
  rw [plain_indices, read, Result.andThen_ok, if_neg ends.notBracket]

theorem index
    (terminal : Terminal .operator s opening s₁)
    (isOpen : opening.kind = .openBracket)
    (complete : Complete .ternary s₁ t s₂)
    (terminal' : Terminal .operator s₂ closing s₃)
    (isClose : closing.kind = .closeBracket)
    (completeOthers : Complete .indices s₃ ts s') :
    Complete .indices s (t :: ts) s' := by
  intro followed
  have closed : Closed s₂ :=
    ⟨closing, s₃, terminal', isClose ▸ Closing.closeBracket⟩
  refine ⟨⟨opening, s₁, terminal, by simp [isOpen]⟩, fun feed stands => ?_⟩
  rcases terminal.reading stands with ⟨feed₁, read, stands₁, _⟩
  rcases complete closed feed₁ (stands₁ _) with ⟨feed₂, reached, stands₂⟩
  rcases terminal'.expecting .closeBracket isClose stands₂ with
    ⟨feed₃, expected, stands₃⟩
  rcases (completeOthers followed).2 feed₃ (stands₃ _) with
    ⟨feed₄, reachedOthers, stands₄⟩
  refine ⟨feed₄, ?_, stands₄⟩
  rw [plain_indices, read, Result.andThen_ok, if_pos isOpen, reached,
    Result.andThen_ok, expected, Result.andThen_ok, reachedOthers,
    Result.andThen_ok]

end Complete

/-- The parser finds all that the grammar derives. -/
theorem complete
    {symbol : Symbol}
    {s s' : σ}
    {yield : symbol.Yield}
    (derives : Derives symbol s yield s') :
    Complete symbol s yield s' := by
  induction derives with
  | plainTernary _ ih => exact .plainTernary ih
  | conditional _ terminal isQuestion _ terminal' isColon _ ih ihYes ihNo =>
      exact .conditional ih terminal isQuestion ihYes terminal' isColon ihNo
  | tighter within _ ih => exact .tighter within ih
  | binary _ terminal isBinary ranked _ ih ihRight =>
      exact .binary ih terminal isBinary ranked ihRight
  | tightest _ ih => exact .tightest ih
  | negation terminal negator _ ih => exact .negation terminal negator ih
  | plainSign terminal notNegator _ ih => exact .plainSign terminal notNegator ih
  | sign terminal isSign _ ih => exact .sign terminal isSign ih
  | defined terminal isDefined _ ih => exact .defined terminal isDefined ih
  | plainPrimary terminal notSign notDefined _ ih =>
      exact .plainPrimary terminal notSign notDefined ih
  | existingParens terminal isOpen _ terminal' isClose ih =>
      exact .existingParens terminal isOpen ih terminal' isClose
  | existing terminal isName _ ih => exact .existing terminal isName ih
  | literal terminal isLiteral => exact .literal terminal isLiteral
  | parens terminal isOpen _ terminal' isClose ih =>
      exact .parens terminal isOpen ih terminal' isClose
  | emptyCall terminal isName notLiteral terminal' isOpen terminal'' isClose =>
      exact .emptyCall terminal isName notLiteral terminal' isOpen
        terminal'' isClose
  | call terminal isName notLiteral terminal' isOpen derives ih =>
      rcases derives.starts nofun with ⟨token', s₃, terminal'', notClosing⟩
      exact .call terminal isName notLiteral terminal' isOpen
        terminal'' notClosing ih
  | «variable» terminal isName notLiteral _ ih =>
      exact .variable terminal isName notLiteral ih
  | lastArgument _ terminal isClose ih => exact .lastArgument ih terminal isClose
  | argument _ terminal isComma _ ih ihOthers =>
      exact .argument ih terminal isComma ihOthers
  | noIndex => exact .noIndex
  | index terminal isOpen _ terminal' isClose _ ih ihOthers =>
      exact .index terminal isOpen ih terminal' isClose ihOthers

/-- The tree that a text spells is what the parser returns for it. -/
theorem wholeExpression_of_spells
    {s : σ}
    {t : Expr}
    (spells : Spells s t) :
    (wholeExpression (Tokenizer.ofSource s)).1 = .ok t := by
  rcases spells with ⟨s₁, token, s₂, derives, terminal, isEnd⟩
  have closed : Closed s₁ := ⟨token, s₂, terminal, isEnd ▸ Closing.endOfInput⟩
  rcases complete derives closed _ (Tokenizer.stands_ofSource .operand s) with
    ⟨feed₁, reached, stands₁⟩
  rcases terminal.expecting .endOfExpression isEnd stands₁ with
    ⟨feed₂, expected, _⟩
  rw [wholeExpression_eq, expression_eq, reached, Result.andThen_ok, expected,
    Result.andThen_ok]

/-- Over any source, the parser accepts exactly what the grammar derives. -/
theorem wholeExpression_eq_ok_iff
    (s : σ)
    (t : Expr) :
    (wholeExpression (Tokenizer.ofSource s)).1 = .ok t ↔ Spells s t :=
  ⟨spells_of_wholeExpression, wholeExpression_of_spells⟩

/-- The grammar is not ambiguous: there is one tree at most that a text spells. -/
theorem Spells.unique
    {s : σ}
    {t t' : Expr}
    (spells : Spells s t)
    (spells' : Spells s t') :
    t = t' := by
  have parsed := (wholeExpression_eq_ok_iff s t).mpr spells
  rw [(wholeExpression_eq_ok_iff s t').mpr spells'] at parsed
  exact (Except.ok.inj parsed).symm

/--
A text is accepted with a tree exactly if the whole text, cut into tokens as the
grammar wants them, derives that tree.
-/
theorem wholeExpression_ofString_eq_ok_iff
    (text : String)
    (t : Expr) :
    (wholeExpression (Tokenizer.ofSource (Cursor.ofString text))).1 = .ok t ↔
      Spells (Reader.ofList text.toList) t := by
  rw [wholeExpression_text]
  exact wholeExpression_eq_ok_iff _ t

end Formula.Grammar
