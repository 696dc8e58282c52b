import Formula.Proofs.Grammar.Members
import Formula.Proofs.RoundTrip.Trees
import Mathlib.Data.Prod.Lex

/-!
# The tokens that name variables

Some of the tokens of an expression are names of variables, and others are names
of functions or are no names at all.  `Takes` is the grammar once more, with the
tokens that name variables.  They stand in the text in the order in which the
tree lists their names, so that an expression depends on its variables in the
order of their first tokens.
-/

namespace Formula

/-! ## Names at their first use -/

section Lists

variable {α : Type} [BEq α] [LawfulBEq α]

theorem eraseDups_filter
    (p : α → Bool)
    (entries : List α) :
    (entries.filter p).eraseDups = entries.eraseDups.filter p := by
  match entries with
  | [] => rfl
  | a :: rest =>
      have shorter : (rest.filter fun b => !b == a).length < rest.length + 1 :=
        Nat.lt_succ_of_le (List.length_filter_le _ rest)
      have ih := eraseDups_filter p (rest.filter fun b => !b == a)
      cases holds : p a with
      | true =>
          rw [List.filter_cons_of_pos holds, List.eraseDups_cons,
            List.eraseDups_cons, List.filter_cons_of_pos holds, ← ih,
            List.filter_filter, List.filter_filter]
          simp only [Bool.and_comm]
      | false =>
          have others :
              (rest.filter fun b => !b == a).filter p = rest.filter p := by
            rw [List.filter_filter]
            refine List.filter_congr fun b _ => ?_
            cases same : b == a with
            | false => simp
            | true => simp [eq_of_beq same, holds]
          rw [List.filter_cons_of_neg (by simp [holds]), List.eraseDups_cons,
            List.filter_cons_of_neg (by simp [holds]), ← ih, others]
termination_by entries.length

theorem nodup_eraseDups (entries : List α) : entries.eraseDups.Nodup := by
  match entries with
  | [] => exact List.nodup_nil
  | a :: rest =>
      have shorter : (rest.filter fun b => !b == a).length < rest.length + 1 :=
        Nat.lt_succ_of_le (List.length_filter_le _ rest)
      rw [List.eraseDups_cons, List.nodup_cons]
      refine ⟨?_, nodup_eraseDups _⟩
      simp [List.mem_eraseDups]
termination_by entries.length

/-- Where nothing is repeated, nothing is left out. -/
theorem eraseDups_of_nodup
    {entries : List α}
    (nodup : entries.Nodup) :
    entries.eraseDups = entries := by
  induction entries with
  | nil => rfl
  | cons a rest ih =>
      rcases List.nodup_cons.mp nodup with ⟨notIn, nodup⟩
      have others : rest.filter (fun b => !b == a) = rest := by
        refine List.filter_eq_self.mpr fun b isMember => ?_
        have other : b ≠ a := fun same => notIn (same ▸ isMember)
        simp [other]
      rw [List.eraseDups_cons, others, ih nodup]

/-- Repetitions may be left out of the parts of a list first. -/
theorem eraseDups_append_eraseDups (entries more : List α) :
    (entries.eraseDups ++ more.eraseDups).eraseDups =
      (entries ++ more).eraseDups := by
  have sameMembers : more.eraseDups.removeAll entries.eraseDups =
      more.eraseDups.removeAll entries := by
    refine List.filter_congr fun b _ => ?_
    simp [List.mem_eraseDups]
  rw [List.eraseDups_append, List.eraseDups_append, sameMembers,
    eraseDups_of_nodup (nodup_eraseDups entries), List.removeAll, List.removeAll,
    eraseDups_filter, eraseDups_filter, eraseDups_of_nodup (nodup_eraseDups more)]

end Lists

/-- The members of a list depend on the names in all of them. -/
theorem Expression.dependencies_eq (expression : Expression) :
    expression.dependencies =
      (Expr.variableNamesOfList expression.exprs).eraseDups := by
  rw [dependencies]
  induction expression.exprs with
  | nil => rfl
  | cons expr rest ih =>
      rw [List.flatMap_cons, Expr.variableNamesOfList,
        ← eraseDups_append_eraseDups, ih, eraseDups_append_eraseDups,
        Expr.dependencies, ← eraseDups_append_eraseDups,
        eraseDups_of_nodup (nodup_eraseDups expr.variableNames),
        eraseDups_append_eraseDups]

/-! ## Places -/

/-- Places are ordered by their lines, and on one line by their columns. -/
def Place.position (place : Place) : ℕ ×ₗ ℕ :=
  toLex (place.line, place.column)

theorem Place.position_lt_after
    (place : Place)
    (c : Char) :
    place.position < (place.after c).position := by
  rw [after]
  split
  case isTrue => exact Prod.Lex.toLex_lt_toLex.mpr (.inl (Nat.lt_succ_self _))
  case isFalse =>
      exact Prod.Lex.toLex_lt_toLex.mpr (.inr ⟨rfl, Nat.lt_succ_self _⟩)

theorem Place.position_le_behind_append
    (chars past : List Char) :
    (behind past).position ≤ (behind (chars ++ past)).position := by
  induction chars with
  | nil => exact le_refl _
  | cons c chars ih => exact ih.trans (position_lt_after _ c).le

namespace Reader

variable {s s' : Reader} {chars : List Char}

theorem Reads.position_le (reads : s.Reads chars s') :
    s.place.position ≤ s'.place.position := by
  rw [place, place, reads.past_eq]
  exact Place.position_le_behind_append _ _

theorem Reads.position_lt
    (reads : s.Reads chars s')
    (something : chars ≠ []) :
    s.place.position < s'.place.position := by
  rcases chars with _ | ⟨c, chars⟩
  · exact absurd rfl something
  rw [place, place, reads.past_eq, List.reverse_cons, List.append_assoc]
  exact (Place.position_lt_after _ c).trans_le
    (Place.position_le_behind_append chars.reverse (c :: s.past))

end Reader

namespace Grammar

open Text Tokenizer

variable {mode : Mode} {s s' : Reader} {token : Token}

/-- A token lies between the positions that it is read between. -/
theorem Terminal.position
    (terminal : Terminal mode s token s')
    (notEnd : token.kind ≠ .endOfInput) :
    s.place.position ≤ token.place.position ∧
      token.place.position < s'.place.position := by
  rcases Scanned.exists_lexeme mode.flags (CharSource.readWhile isBlank s).2 with
    ⟨lexeme, taken, isEmpty, _⟩
  have skipped := Reader.reads_readWhile isBlank s
  have found := terminal.token_eq
  rw [token_scan] at found
  have isSource := terminal.source_eq
  rw [source_scan] at isSource
  simp only [ofSource] at found isSource
  rw [isSource] at taken
  have something : lexeme ≠ [] := by
    intro nothing
    rw [← found] at notEnd
    exact notEnd (isEmpty.mp nothing)
  have placed : token.place = Reader.place (CharSource.readWhile isBlank s).2 := by
    rw [← found]
    rfl
  rw [placed]
  exact ⟨skipped.position_le, taken.position_lt something⟩

/-- Tokens lie between two positions of a text, one behind the other. -/
structure Between (s s' : Reader) (tokens : List Token) : Prop where
  reads : ∃ piece, s.Reads piece s'
  ordered : tokens.Pairwise (·.place.position < ·.place.position)
  behind : ∀ token ∈ tokens, s.place.position ≤ token.place.position
  before : ∀ token ∈ tokens, token.place.position < s'.place.position

section

variable {s₁ : Reader} {tokens more : List Token}

theorem Between.nothing (reads : ∃ piece, s.Reads piece s') : Between s s' [] where
  reads
  ordered := .nil
  behind _ := nofun
  before _ := nofun

theorem Between.single
    (terminal : Terminal mode s token s')
    (notEnd : token.kind ≠ .endOfInput) :
    Between s s' [token] where
  reads := terminal.reads
  ordered := List.pairwise_singleton _ _
  behind := List.forall_mem_singleton.mpr (terminal.position notEnd).1
  before := List.forall_mem_singleton.mpr (terminal.position notEnd).2

theorem Between.append
    (between : Between s s₁ tokens)
    (between' : Between s₁ s' more) :
    Between s s' (tokens ++ more) where
  reads := Reader.Reads.exists_trans between.reads between'.reads
  ordered := by
    refine List.pairwise_append.mpr ⟨between.ordered, between'.ordered, ?_⟩
    intro token isIn token' isIn'
    exact (between.before token isIn).trans_le (between'.behind token' isIn')
  behind := by
    rcases between.reads with ⟨_, reads⟩
    refine List.forall_mem_append.mpr ⟨between.behind, ?_⟩
    exact fun token isIn => reads.position_le.trans (between'.behind token isIn)
  before := by
    rcases between'.reads with ⟨_, reads⟩
    refine List.forall_mem_append.mpr ⟨?_, between'.before⟩
    exact fun token isIn => (between.before token isIn).trans_le reads.position_le

/-- Behind something else, tokens lie behind what is in front of it. -/
theorem Between.past
    (reads : ∃ piece, s.Reads piece s₁)
    (between : Between s₁ s' tokens) :
    Between s s' tokens :=
  (Between.nothing reads).append between

/-- In front of something else, tokens lie in front of what is behind it. -/
theorem Between.until
    (between : Between s s₁ tokens)
    (reads : ∃ piece, s₁.Reads piece s') :
    Between s s' tokens := by
  simpa using between.append (Between.nothing reads)

end

/-! ## Tokens that name variables -/

/--
`Takes symbol s yield s' tokens` says that the text between two positions spells
what the symbol yields, and that the tokens are, from left to right, those whose
texts are taken as names of variables.
-/
inductive Takes {σ : Type} [CharSource σ] :
    (symbol : Symbol) → σ → symbol.Yield → σ → List Token → Prop where
  | plainTernary {s s' : σ} {t : Expr} {tokens : List Token} :
      Takes (.binary 0) s t s' tokens →
        Takes .ternary s t s' tokens
  | conditional {s s₁ s₂ s₃ s₄ s' : σ} {condition yes no : Expr}
      {question colon : Token}
      {asked first second : List Token} :
      Takes (.binary 0) s condition s₁ asked →
        Terminal .operator s₁ question s₂ → question.kind = .question →
          Takes .ternary s₂ yes s₃ first →
            Terminal .operator s₃ colon s₄ → colon.kind = .colon →
              Takes .ternary s₄ no s' second →
                Takes .ternary s (.conditional condition yes no) s'
                  (asked ++ first ++ second)
  | tighter {rank : Nat} {s s' : σ} {t : Expr} {tokens : List Token} :
      rank < ranks →
        Takes (.binary (rank + 1)) s t s' tokens →
          Takes (.binary rank) s t s' tokens
  | binary {rank : Nat} {s s₁ s₂ s' : σ} {left right : Expr} {token : Token}
      {op : Op}
      {first second : List Token} :
      Takes (.binary rank) s left s₁ first →
        Terminal .operator s₁ token s₂ →
          binary? token.kind = some op → rank? op = some rank →
            Takes (.binary (rank + 1)) s₂ right s' second →
              Takes (.binary rank) s (.binary op left right) s' (first ++ second)
  | tightest {s s' : σ} {t : Expr} {tokens : List Token} :
      Takes .negation s t s' tokens →
        Takes (.binary ranks) s t s' tokens
  | negation {s s₁ s' : σ} {operand : Expr} {token : Token} {op : Op}
      {tokens : List Token} :
      Terminal .operand s token s₁ → Negator token.kind op →
        Takes .negation s₁ operand s' tokens →
          Takes .negation s (.unary op operand) s' tokens
  | plainSign {s s₁ s' : σ} {t : Expr} {first : Token} {tokens : List Token} :
      Terminal .operand s first s₁ → (∀ op, ¬ Negator first.kind op) →
        Takes .sign s t s' tokens →
          Takes .negation s t s' tokens
  | sign {s s₁ s' : σ} {operand : Expr} {token : Token} {op : Op}
      {tokens : List Token} :
      Terminal .operand s token s₁ → Sign token.kind op →
        Takes .sign s₁ operand s' tokens →
          Takes .sign s (.unary op operand) s' tokens
  | defined {s s₁ s' : σ} {operand : Expr} {token : Token} {tokens : List Token} :
      Terminal .operand s token s₁ → token.kind = .defined →
        Takes .existing s₁ operand s' tokens →
          Takes .sign s (.unary .defined operand) s' tokens
  | plainPrimary {s s₁ s' : σ} {t : Expr} {first : Token} {tokens : List Token} :
      Terminal .operand s first s₁ →
        (∀ op, ¬ Sign first.kind op) → first.kind ≠ .defined →
          Takes .primary s t s' tokens →
            Takes .sign s t s' tokens
  | existingParens {s s₁ s₂ s' : σ} {t : Expr} {opening closing : Token}
      {tokens : List Token} :
      Terminal .operand s opening s₁ → opening.kind = .openParen →
        Takes .existing s₁ t s₂ tokens →
          Terminal .operator s₂ closing s' → closing.kind = .closeParen →
            Takes .existing s t s' tokens
  | existing {s s₁ s' : σ} {token : Token} {name : String} {indices : List Expr}
      {tokens : List Token} :
      Terminal .operand s token s₁ → Name token name →
        Takes .indices s₁ indices s' tokens →
          Takes .existing s (.var name indices) s' (token :: tokens)
  | literal {s s' : σ} {token : Token} {value : Value} :
      Terminal .operand s token s' → Literal token value →
        Takes .primary s (.literal value) s' []
  | parens {s s₁ s₂ s' : σ} {t : Expr} {opening closing : Token}
      {tokens : List Token} :
      Terminal .operand s opening s₁ → opening.kind = .openParen →
        Takes .ternary s₁ t s₂ tokens →
          Terminal .operator s₂ closing s' → closing.kind = .closeParen →
            Takes .primary s t s' tokens
  | emptyCall {s s₁ s₂ s' : σ} {token opening closing : Token} {name : String} :
      Terminal .operand s token s₁ → Name token name →
        (∀ value, ¬ Literal token value) →
          Terminal .operator s₁ opening s₂ → opening.kind = .openParen →
            Terminal .operand s₂ closing s' → closing.kind = .closeParen →
              Takes .primary s (.call name []) s' []
  | call {s s₁ s₂ s' : σ} {token opening : Token} {name : String}
      {arguments : List Expr}
      {tokens : List Token} :
      Terminal .operand s token s₁ → Name token name →
        (∀ value, ¬ Literal token value) →
          Terminal .operator s₁ opening s₂ → opening.kind = .openParen →
            Takes .arguments s₂ arguments s' tokens →
              Takes .primary s (.call name arguments) s' tokens
  | variable {s s₁ s' : σ} {token : Token} {name : String} {indices : List Expr}
      {tokens : List Token} :
      Terminal .operand s token s₁ → Name token name →
        (∀ value, ¬ Literal token value) →
          Takes .indices s₁ indices s' tokens →
            Takes .primary s (.var name indices) s' (token :: tokens)
  | lastArgument {s s₁ s' : σ} {t : Expr} {closing : Token} {tokens : List Token} :
      Takes .ternary s t s₁ tokens →
        Terminal .operator s₁ closing s' → closing.kind = .closeParen →
          Takes .arguments s [t] s' tokens
  | argument {s s₁ s₂ s' : σ} {t : Expr} {ts : List Expr} {comma : Token}
      {first others : List Token} :
      Takes .ternary s t s₁ first →
        Terminal .operator s₁ comma s₂ → comma.kind = .comma →
          Takes .arguments s₂ ts s' others →
            Takes .arguments s (t :: ts) s' (first ++ others)
  | noIndex {s : σ} :
      Takes .indices s [] s []
  | index {s s₁ s₂ s₃ s' : σ} {t : Expr} {ts : List Expr} {opening closing : Token}
      {first others : List Token} :
      Terminal .operator s opening s₁ → opening.kind = .openBracket →
        Takes .ternary s₁ t s₂ first →
          Terminal .operator s₂ closing s₃ → closing.kind = .closeBracket →
            Takes .indices s₃ ts s' others →
              Takes .indices s (t :: ts) s' (first ++ others)

/-- The rest of the text spells the further members of a list, and the tokens name
variables in it. -/
inductive TakesRest {σ : Type} [CharSource σ] :
    σ → List Expr → List Token → Prop where
  | done {s s' : σ} {token : Token} :
      Terminal .operator s token s' → token.kind = .endOfInput →
        TakesRest s [] []
  | trailing {s s₁ s' : σ} {semicolon token : Token} :
      Terminal .operator s semicolon s₁ → semicolon.kind = .semicolon →
        Terminal .operand s₁ token s' → token.kind = .endOfInput →
          TakesRest s [] []
  | more {s s₁ s₂ : σ} {semicolon : Token} {t : Expr} {ts : List Expr}
      {first others : List Token} :
      Terminal .operator s semicolon s₁ → semicolon.kind = .semicolon →
        Takes .ternary s₁ t s₂ first → TakesRest s₂ ts others →
          TakesRest s (t :: ts) (first ++ others)

/-- The whole text from a position on spells a list of trees, and the tokens name
variables in it. -/
inductive TakesList {σ : Type} [CharSource σ] :
    σ → List Expr → List Token → Prop where
  | list {s s' : σ} {t : Expr} {ts : List Expr} {first others : List Token} :
      Takes .ternary s t s' first → TakesRest s' ts others →
        TakesList s (t :: ts) (first ++ others)

/-- The names of the variables in what a symbol yields. -/
def Symbol.variableNames : (symbol : Symbol) → symbol.Yield → List String
  | ternary, t | binary _, t | negation, t | sign, t | existing, t | primary, t =>
    Expr.variableNames t
  | arguments, ts | indices, ts => Expr.variableNamesOfList ts

section

variable {σ : Type} [CharSource σ]

/-- Whatever is derived takes some tokens as names. -/
theorem Derives.exists_takes
    {symbol : Symbol}
    {s s' : σ}
    {yield : symbol.Yield}
    (derives : Derives symbol s yield s') :
    ∃ tokens, Takes symbol s yield s' tokens := by
  induction derives with
  | plainTernary _ ih =>
      rcases ih with ⟨_, takes⟩
      exact ⟨_, .plainTernary takes⟩
  | conditional _ question isQuestion _ colon isColon _ ih ihYes ihNo =>
      rcases ih with ⟨_, asks⟩
      rcases ihYes with ⟨_, takes⟩
      rcases ihNo with ⟨_, takes'⟩
      exact ⟨_, .conditional asks question isQuestion takes colon isColon takes'⟩
  | tighter within _ ih =>
      rcases ih with ⟨_, takes⟩
      exact ⟨_, .tighter within takes⟩
  | binary _ terminal isBinary ranked _ ih ihRight =>
      rcases ih with ⟨_, takes⟩
      rcases ihRight with ⟨_, takes'⟩
      exact ⟨_, .binary takes terminal isBinary ranked takes'⟩
  | tightest _ ih =>
      rcases ih with ⟨_, takes⟩
      exact ⟨_, .tightest takes⟩
  | negation terminal negator _ ih =>
      rcases ih with ⟨_, takes⟩
      exact ⟨_, .negation terminal negator takes⟩
  | plainSign terminal notNegator _ ih =>
      rcases ih with ⟨_, takes⟩
      exact ⟨_, .plainSign terminal notNegator takes⟩
  | sign terminal isSign _ ih =>
      rcases ih with ⟨_, takes⟩
      exact ⟨_, .sign terminal isSign takes⟩
  | defined terminal isDefined _ ih =>
      rcases ih with ⟨_, takes⟩
      exact ⟨_, .defined terminal isDefined takes⟩
  | plainPrimary terminal notSign notDefined _ ih =>
      rcases ih with ⟨_, takes⟩
      exact ⟨_, .plainPrimary terminal notSign notDefined takes⟩
  | existingParens terminal isOpen _ closing isClose ih =>
      rcases ih with ⟨_, takes⟩
      exact ⟨_, .existingParens terminal isOpen takes closing isClose⟩
  | existing terminal isName _ ih =>
      rcases ih with ⟨_, takes⟩
      exact ⟨_, .existing terminal isName takes⟩
  | literal terminal isLiteral => exact ⟨_, .literal terminal isLiteral⟩
  | parens terminal isOpen _ closing isClose ih =>
      rcases ih with ⟨_, takes⟩
      exact ⟨_, .parens terminal isOpen takes closing isClose⟩
  | emptyCall terminal isName notLiteral opening isOpen closing isClose =>
      exact
        ⟨_, .emptyCall terminal isName notLiteral opening isOpen closing isClose⟩
  | call terminal isName notLiteral opening isOpen _ ih =>
      rcases ih with ⟨_, takes⟩
      exact ⟨_, .call terminal isName notLiteral opening isOpen takes⟩
  | «variable» terminal isName notLiteral _ ih =>
      rcases ih with ⟨_, takes⟩
      exact ⟨_, .variable terminal isName notLiteral takes⟩
  | lastArgument _ closing isClose ih =>
      rcases ih with ⟨_, takes⟩
      exact ⟨_, .lastArgument takes closing isClose⟩
  | argument _ comma isComma _ ih ihOthers =>
      rcases ih with ⟨_, takes⟩
      rcases ihOthers with ⟨_, takes'⟩
      exact ⟨_, .argument takes comma isComma takes'⟩
  | noIndex => exact ⟨_, .noIndex⟩
  | index opening isOpen _ closing isClose _ ih ihOthers =>
      rcases ih with ⟨_, takes⟩
      rcases ihOthers with ⟨_, takes'⟩
      exact ⟨_, .index opening isOpen takes closing isClose takes'⟩

theorem Name.text_eq
    {token : Token}
    {name : String}
    (isName : Name token name) :
    token.text = name := by
  cases isName <;> rfl

/-- The tokens give the names of the variables, in the order of the tree. -/
theorem Takes.texts
    {symbol : Symbol}
    {s s' : σ}
    {yield : symbol.Yield}
    {tokens : List Token}
    (takes : Takes symbol s yield s' tokens) :
    tokens.map Token.text = symbol.variableNames yield := by
  induction takes with
  | plainTernary _ ih => exact ih
  | conditional _ _ _ _ _ _ _ ih ihYes ihNo =>
      rw [List.map_append, List.map_append, ih, ihYes, ihNo]
      rfl
  | tighter _ _ ih => exact ih
  | binary _ _ _ _ _ ih ihRight =>
      rw [List.map_append, ih, ihRight]
      rfl
  | tightest _ ih => exact ih
  | negation _ _ _ ih => exact ih.trans (List.append_nil _).symm
  | plainSign _ _ _ ih => exact ih
  | sign _ _ _ ih => exact ih.trans (List.append_nil _).symm
  | defined _ _ _ ih => exact ih.trans (List.append_nil _).symm
  | plainPrimary _ _ _ _ ih => exact ih
  | existingParens _ _ _ _ _ ih => exact ih
  | existing _ isName _ ih =>
      rw [List.map_cons, isName.text_eq, ih]
      rfl
  | literal _ _ => rfl
  | parens _ _ _ _ _ ih => exact ih
  | emptyCall _ _ _ _ _ _ _ => rfl
  | call _ _ _ _ _ _ ih => exact ih
  | «variable» _ isName _ _ ih =>
      rw [List.map_cons, isName.text_eq, ih]
      rfl
  | lastArgument _ _ _ ih => exact ih.trans (List.append_nil _).symm
  | argument _ _ _ _ ih ihOthers =>
      rw [List.map_append, ih, ihOthers]
      rfl
  | noIndex => rfl
  | index _ _ _ _ _ _ ih ihOthers =>
      rw [List.map_append, ih, ihOthers]
      rfl

theorem SpellsRest.exists_takes
    {s : σ}
    {ts : List Expr}
    (spells : SpellsRest s ts) :
    ∃ tokens, TakesRest s ts tokens := by
  induction spells with
  | done terminal isEnd => exact ⟨_, .done terminal isEnd⟩
  | trailing terminal isSemicolon terminal' isEnd =>
      exact ⟨_, .trailing terminal isSemicolon terminal' isEnd⟩
  | more terminal isSemicolon derives _ ih =>
      rcases derives.exists_takes with ⟨_, takes⟩
      rcases ih with ⟨_, takes'⟩
      exact ⟨_, .more terminal isSemicolon takes takes'⟩

theorem SpellsList.exists_takes
    {s : σ}
    {ts : List Expr}
    (spells : SpellsList s ts) :
    ∃ tokens, TakesList s ts tokens := by
  rcases spells with ⟨derives, spells⟩
  rcases derives.exists_takes with ⟨_, takes⟩
  rcases spells.exists_takes with ⟨_, takes'⟩
  exact ⟨_, .list takes takes'⟩

theorem TakesRest.texts
    {s : σ}
    {ts : List Expr}
    {tokens : List Token}
    (takes : TakesRest s ts tokens) :
    tokens.map Token.text = Expr.variableNamesOfList ts := by
  induction takes with
  | done _ _ => rfl
  | trailing _ _ _ _ => rfl
  | more _ _ takes _ ih =>
      rw [List.map_append, takes.texts, ih]
      rfl

theorem TakesList.texts
    {s : σ}
    {ts : List Expr}
    {tokens : List Token}
    (takes : TakesList s ts tokens) :
    tokens.map Token.text = Expr.variableNamesOfList ts := by
  rcases takes with ⟨takes, takes'⟩
  rw [List.map_append, takes.texts, takes'.texts]
  rfl

end

/-! ## Their order in the text -/

section

variable {tokens : List Token}

theorem Name.ne_endOfInput
    {name : String}
    (isName : Name token name) :
    token.kind ≠ .endOfInput :=
  fun isEnd => isName.not_closing (isEnd ▸ .endOfInput)

/-- The tokens of what is derived lie in its piece of the text, from left to
right. -/
theorem Takes.between
    {symbol : Symbol}
    {yield : symbol.Yield}
    (takes : Takes symbol s yield s' tokens) :
    Between s s' tokens := by
  induction takes with
  | plainTernary _ ih => exact ih
  | conditional _ question _ _ colon _ _ ih ihYes ihNo =>
      exact (ih.append (ihYes.past question.reads)).append (ihNo.past colon.reads)
  | tighter _ _ ih => exact ih
  | binary _ terminal _ _ _ ih ihRight =>
      exact ih.append (ihRight.past terminal.reads)
  | tightest _ ih => exact ih
  | negation terminal _ _ ih => exact ih.past terminal.reads
  | plainSign _ _ _ ih => exact ih
  | sign terminal _ _ ih => exact ih.past terminal.reads
  | defined terminal _ _ ih => exact ih.past terminal.reads
  | plainPrimary _ _ _ _ ih => exact ih
  | existingParens opening _ _ closing _ ih =>
      exact (ih.past opening.reads).until closing.reads
  | existing terminal isName _ ih =>
      exact (Between.single terminal isName.ne_endOfInput).append ih
  | literal terminal _ => exact .nothing terminal.reads
  | parens opening _ _ closing _ ih =>
      exact (ih.past opening.reads).until closing.reads
  | emptyCall terminal _ _ opening _ closing _ =>
      exact ((Between.nothing closing.reads).past opening.reads).past
        terminal.reads
  | call terminal _ _ opening _ _ ih =>
      exact (ih.past opening.reads).past terminal.reads
  | «variable» terminal isName _ _ ih =>
      exact (Between.single terminal isName.ne_endOfInput).append ih
  | lastArgument _ closing _ ih => exact ih.until closing.reads
  | argument _ comma _ _ ih ihOthers => exact ih.append (ihOthers.past comma.reads)
  | noIndex => exact .nothing ⟨[], .refl _⟩
  | index opening _ _ closing _ _ ih ihOthers =>
      exact (ih.past opening.reads).append (ihOthers.past closing.reads)

theorem TakesRest.between
    {ts : List Expr}
    (takes : TakesRest s ts tokens) :
    ∃ s', Between s s' tokens := by
  induction takes with
  | done terminal _ => exact ⟨_, .nothing terminal.reads⟩
  | trailing terminal _ _ _ => exact ⟨_, .nothing terminal.reads⟩
  | more terminal _ takes _ ih =>
      rcases ih with ⟨_, between⟩
      exact ⟨_, (takes.between.past terminal.reads).append between⟩

theorem TakesList.ordered
    {ts : List Expr}
    (takes : TakesList s ts tokens) :
    tokens.Pairwise (·.place.position < ·.place.position) := by
  rcases takes with ⟨takes, takes'⟩
  rcases takes'.between with ⟨_, between⟩
  exact (takes.between.append between).ordered

end

/-- The names are the texts of the tokens, each once, and in the order of the first
token of each. -/
structure FirstUses (tokens : List Token) (names : List String) : Prop where
  nodup : names.Nodup
  mem_iff : ∀ name, name ∈ names ↔ ∃ token ∈ tokens, token.text = name
  ordered : names.Pairwise fun name later => ∃ token ∈ tokens, token.text = name ∧
    ∀ token' ∈ tokens, token'.text = later →
      token.place.position < token'.place.position

/-- Without repetitions, the texts of tokens are in the order of their first
use. -/
theorem pairwise_eraseDups_of_ordered
    (tokens : List Token)
    (ordered : tokens.Pairwise (·.place.position < ·.place.position)) :
    (tokens.map Token.text).eraseDups.Pairwise fun name later =>
      ∃ token ∈ tokens, token.text = name ∧
        ∀ token' ∈ tokens, token'.text = later →
          token.place.position < token'.place.position := by
  match tokens with
  | [] => exact .nil
  | first :: rest =>
      rcases List.pairwise_cons.mp ordered with ⟨isFirst, ordered⟩
      let others := rest.filter fun token => !token.text == first.text
      have shorter : others.length < rest.length + 1 :=
        Nat.lt_succ_of_le (List.length_filter_le _ rest)
      have ih := pairwise_eraseDups_of_ordered others (ordered.filter _)
      have names : (rest.map Token.text).filter (fun name => !name == first.text) =
          others.map Token.text :=
        List.filter_map
      -- A name that is not the first one is given by the tokens
      -- left over, and by no other.
      have among :
          ∀ later ∈ (others.map Token.text).eraseDups, ∀ token ∈ first :: rest,
            token.text = later → token ∈ others := by
        intro later isIn token isToken isNamed
        rcases List.mem_map.mp (List.mem_eraseDups.mp isIn) with
          ⟨other, isOther, rfl⟩
        have differs : other.text ≠ first.text := by
          simpa using (List.mem_filter.mp isOther).2
        rcases List.mem_cons.mp isToken with rfl | isToken
        · exact absurd isNamed.symm differs
        · exact List.mem_filter.mpr ⟨isToken, by simpa [isNamed] using differs⟩
      rw [List.map_cons, List.eraseDups_cons, names]
      refine List.pairwise_cons.mpr ⟨fun later isIn => ?_, ?_⟩
      · refine ⟨first, List.mem_cons_self, rfl, fun token isToken isNamed => ?_⟩
        exact isFirst token
          (List.mem_filter.mp (among later isIn token isToken isNamed)).1
      · refine ih.imp_of_mem fun {name later} _ isIn => ?_
        rintro ⟨token, isToken, isNamed, precedes⟩
        refine ⟨token, List.mem_cons_of_mem _ (List.mem_filter.mp isToken).1,
          isNamed, ?_⟩
        intro token' isToken' isNamed'
        exact precedes token' (among later isIn token' isToken' isNamed') isNamed'
termination_by tokens.length
decreasing_by exact shorter

theorem firstUses_of_ordered
    {tokens : List Token}
    (ordered : tokens.Pairwise (·.place.position < ·.place.position)) :
    FirstUses tokens (tokens.map Token.text).eraseDups where
  nodup := nodup_eraseDups _
  mem_iff name := by
    rw [List.mem_eraseDups, List.mem_map]
  ordered := pairwise_eraseDups_of_ordered tokens ordered

end Grammar

namespace Expression

open Grammar Parse

/-- What is parsed, as a list or not, is a list of the grammar. -/
theorem spellsList_of_parse
    {text : String}
    {multiple : Bool}
    {expression : Expression}
    (parsed : parse text multiple = .ok expression) :
    SpellsList (Reader.ofList text.toList) expression.exprs := by
  rw [parse, parseSource, expressions_text] at parsed
  cases found :
    (expressions multiple (Tokenizer.ofSource (Reader.ofList text.toList))).1 with
  | error e =>
      rw [found] at parsed
      cases parsed
  | ok ts =>
      rw [found] at parsed
      cases parsed
      cases multiple with
      | true => exact (expressions_eq_ok_iff _ _).mp found
      | false =>
          rw [expressions_false] at found
          cases whole :
            (wholeExpression
              (Tokenizer.ofSource (Reader.ofList text.toList))).1 with
          | error e =>
              rw [whole] at found
              cases found
          | ok t =>
              rw [whole] at found
              cases found
              rcases spells_of_wholeExpression whole with
                ⟨_, _, _, derives, terminal, isEnd⟩
              exact .list derives (.done terminal isEnd)

/-- A parsed text depends on the names of those of its tokens that name
variables, on each once, in the order of the first such tokens in the text. -/
theorem firstUses_of_parse
    {text : String}
    {multiple : Bool}
    {expression : Expression}
    (parsed : parse text multiple = .ok expression) :
    (∃ tokens, TakesList (Reader.ofList text.toList) expression.exprs tokens) ∧
      ∀ tokens, TakesList (Reader.ofList text.toList) expression.exprs tokens →
        FirstUses tokens expression.dependencies := by
  refine ⟨(spellsList_of_parse parsed).exists_takes, fun tokens takes => ?_⟩
  rw [dependencies_eq, ← takes.texts]
  exact firstUses_of_ordered takes.ordered

/-- The names of `:f(:b) ? :a[:b] : ex :c`, where `f` names a function. -/
theorem firstUses_of_parse_conditional :
    ∃ expression : Expression,
      parse ":f(:b) ? :a[:b] : ex :c" true = .ok expression ∧
      expression.dependencies = ["b", "a", "c"] ∧
      (∃ tokens, TakesList (Reader.ofList ":f(:b) ? :a[:b] : ex :c".toList)
        expression.exprs tokens) ∧
      ∀ tokens, TakesList (Reader.ofList ":f(:b) ? :a[:b] : ex :c".toList)
        expression.exprs tokens → FirstUses tokens expression.dependencies := by
  let tree : Expr :=
    .conditional (.call "f" [.var "b" []]) (.var "a" [.var "b" []])
      (.unary .defined (.var "c" []))
  have named : ∀ name ∈ ["a", "b", "c", "f"], Text.IsName name := by
    intro name isIn
    simp only [List.mem_cons, List.not_mem_nil, or_false] at isIn
    rcases isIn with rfl | rfl | rfl | rfl
    all_goals exact ⟨_, [], rfl, rfl, nofun⟩
  have b : (Expr.var "b" []).WellFormed := .variable (named _ (by decide)) nofun
  have wellFormed : tree.WellFormed := by
    refine .conditional (.call (named _ (by decide)) ?_)
      (.variable (named _ (by decide)) ?_) (.defined (named _ (by decide)) nofun)
    · exact List.forall_mem_singleton.mpr b
    · exact List.forall_mem_singleton.mpr b
  have written : tree.written = ":f(:b) ? :a[:b] : ex :c" := by decide +kernel
  have parsed := written ▸ parse_written wellFormed
  exact ⟨_, parsed, by decide, firstUses_of_parse parsed⟩

end Expression

end Formula
