import Formula.Proofs.Grammar.Locality
import Formula.Proofs.Grammar.Members

/-!
# Words of tokens

The grammar speaks of tokens only, and not of where they stand.  A `Phrase` is
a word of tokens that a symbol of the grammar derives, and a text derives what
a phrase derives exactly if the tokens of the phrase stand in it, one behind
the other.  In a phrase, an operator is a kind of tokens: how it is written
does not count.  All other tokens are taken as they are written, also the words
that could be operators elsewhere.
-/

namespace Formula.Grammar

open Parse

/-! ## Leaves -/

/-- A token in the role that it has in an expression, and the mode in which it is
read: the operators between two operands and in front of one are known by their
kinds. -/
inductive Leaf where
  | operator (mode : Mode) (kind : TokenKind)
  | plain (mode : Mode) (token : Token)

namespace Leaf

/-- How the token is read. -/
def mode : Leaf → Mode
  | operator mode _ | plain mode _ => mode

/-- The kind of the token. -/
def kind : Leaf → TokenKind
  | operator _ kind => kind
  | plain _ token => token.kind

/-- A token at some place in a text can be the leaf. -/
def Fits : Leaf → Token → Prop
  | operator _ kind, token => token.kind = kind
  | plain _ taken, token => Moved taken token

variable {leaf : Leaf} {token token' : Token}

theorem Fits.kind_eq (fits : leaf.Fits token) : token.kind = leaf.kind := by
  cases leaf with
  | operator mode kind => exact fits
  | plain mode taken => exact Moved.kind_eq fits

theorem Fits.of_moved
    (fits : leaf.Fits token)
    (moved : Moved token token') :
    leaf.Fits token' := by
  cases leaf with
  | operator mode kind => exact moved.kind_eq.trans fits
  | plain mode taken =>
      rcases fits with ⟨place, rfl⟩
      rcases moved with ⟨place', rfl⟩
      exact ⟨place', rfl⟩

end Leaf

/-- The leaves of a word stand in a text one behind the other, between two
positions. -/
inductive Chain {σ : Type} [CharSource σ] : σ → List Leaf → σ → Prop where
  | nil {s : σ} : Chain s [] s
  | cons {leaf : Leaf} {token : Token} {s s₁ s' : σ} {word : List Leaf} :
      Terminal leaf.mode s token s₁ → leaf.Fits token → token.kind ≠ .endOfInput →
        Chain s₁ word s' → Chain s (leaf :: word) s'

section

variable {σ : Type} [CharSource σ] {s s₁ s' : σ} {word more : List Leaf}

theorem chain_cons_iff {leaf : Leaf} :
    Chain s (leaf :: word) s' ↔
      ∃ token s₁, Terminal leaf.mode s token s₁ ∧ leaf.Fits token ∧
        token.kind ≠ .endOfInput ∧ Chain s₁ word s' := by
  constructor
  · rintro (_ | ⟨terminal, fits, notEnd, chain⟩)
    exact ⟨_, _, terminal, fits, notEnd, chain⟩
  · rintro ⟨token, s₁, terminal, fits, notEnd, chain⟩
    exact .cons terminal fits notEnd chain

theorem chain_append_iff :
    Chain s (word ++ more) s' ↔ ∃ s₁, Chain s word s₁ ∧ Chain s₁ more s' := by
  induction word generalizing s with
  | nil =>
      constructor
      · exact fun chain => ⟨s, .nil, chain⟩
      · rintro ⟨_, ⟨⟩, chain⟩
        exact chain
  | cons leaf word ih =>
      rw [List.cons_append, chain_cons_iff]
      constructor
      · rintro ⟨token, s₁, terminal, fits, notEnd, chain⟩
        rcases ih.mp chain with ⟨s₂, first, second⟩
        exact ⟨s₂, .cons terminal fits notEnd first, second⟩
      · rintro ⟨s₂, first, second⟩
        rcases chain_cons_iff.mp first with
          ⟨token, s₁, terminal, fits, notEnd, first⟩
        exact ⟨token, s₁, terminal, fits, notEnd, ih.mpr ⟨s₂, first, second⟩⟩

theorem Chain.append
    (first : Chain s word s₁)
    (second : Chain s₁ more s') :
    Chain s (word ++ more) s' :=
  chain_append_iff.mpr ⟨s₁, first, second⟩

/-- A token stands in front as it is written. -/
theorem Chain.plain
    {mode : Mode}
    {token : Token}
    (terminal : Terminal mode s token s₁)
    (notEnd : token.kind ≠ .endOfInput)
    (chain : Chain s₁ word s') :
    Chain s (.plain mode token :: word) s' :=
  .cons terminal ⟨token.place, rfl⟩ notEnd chain

/-- A punctuation mark stands in front. -/
theorem Chain.mark
    {mode : Mode}
    {token : Token}
    {kind : TokenKind}
    (terminal : Terminal mode s token s₁)
    (isKind : token.kind = kind)
    (notEnd : kind ≠ .endOfInput)
    (chain : Chain s₁ word s') :
    Chain s (.plain mode token :: word) s' :=
  .plain terminal (isKind ▸ notEnd) chain

/-- An operator stands in front. -/
theorem Chain.operator
    {mode : Mode}
    {token : Token}
    (terminal : Terminal mode s token s₁)
    (notEnd : token.kind ≠ .endOfInput)
    (chain : Chain s₁ word s') :
    Chain s (.operator mode token.kind :: word) s' :=
  .cons terminal rfl notEnd chain

end

/-! ## Phrases -/

/--
`Phrase symbol yield word` says that the word of tokens spells what the symbol
yields.  The rules are those of `Derives`; the operators in `binary`, `negation`,
`sign` and `defined` are the leaves that are known by their kinds.
-/
inductive Phrase : (symbol : Symbol) → symbol.Yield → List Leaf → Prop where
  | plainTernary {t : Expr} {word : List Leaf} :
      Phrase (.binary 0) t word → Phrase .ternary t word
  | conditional {condition yes no : Expr} {question colon : Token}
      {asked first second : List Leaf} :
      Phrase (.binary 0) condition asked → question.kind = .question →
        Phrase .ternary yes first → colon.kind = .colon →
          Phrase .ternary no second →
            Phrase .ternary (.conditional condition yes no)
              (asked ++ .plain .operator question ::
                (first ++ .plain .operator colon :: second))
  | tighter {rank : Nat} {t : Expr} {word : List Leaf} :
      rank < ranks → Phrase (.binary (rank + 1)) t word →
        Phrase (.binary rank) t word
  | binary {rank : Nat} {left right : Expr} {kind : TokenKind} {op : Op}
      {first second : List Leaf} :
      Phrase (.binary rank) left first → binary? kind = some op →
        rank? op = some rank →
          Phrase (.binary (rank + 1)) right second →
            Phrase (.binary rank) (.binary op left right)
              (first ++ .operator .operator kind :: second)
  | tightest {t : Expr} {word : List Leaf} :
      Phrase .negation t word → Phrase (.binary ranks) t word
  | negation {operand : Expr} {kind : TokenKind} {op : Op} {word : List Leaf} :
      Negator kind op → Phrase .negation operand word →
        Phrase .negation (.unary op operand) (.operator .operand kind :: word)
  | plainSign {t : Expr} {leaf : Leaf} {word : List Leaf} :
      (∀ op, ¬ Negator leaf.kind op) → Phrase .sign t (leaf :: word) →
        Phrase .negation t (leaf :: word)
  | sign {operand : Expr} {kind : TokenKind} {op : Op} {word : List Leaf} :
      Sign kind op → Phrase .sign operand word →
        Phrase .sign (.unary op operand) (.operator .operand kind :: word)
  | defined {operand : Expr} {word : List Leaf} :
      Phrase .existing operand word →
        Phrase .sign (.unary .defined operand)
          (.operator .operand .defined :: word)
  | plainPrimary {t : Expr} {leaf : Leaf} {word : List Leaf} :
      (∀ op, ¬ Sign leaf.kind op) → leaf.kind ≠ .defined →
        Phrase .primary t (leaf :: word) →
          Phrase .sign t (leaf :: word)
  | existingParens {t : Expr} {opening closing : Token} {word : List Leaf} :
      opening.kind = .openParen → Phrase .existing t word →
        closing.kind = .closeParen →
          Phrase .existing t
            (.plain .operand opening :: (word ++ [.plain .operator closing]))
  | existing {token : Token} {name : String} {indices : List Expr}
      {word : List Leaf} :
      Name token name → Phrase .indices indices word →
        Phrase .existing (.var name indices) (.plain .operand token :: word)
  | literal {token : Token} {value : Value} :
      Literal token value →
        Phrase .primary (.literal value) [.plain .operand token]
  | parens {t : Expr} {opening closing : Token} {word : List Leaf} :
      opening.kind = .openParen → Phrase .ternary t word →
        closing.kind = .closeParen →
          Phrase .primary t
            (.plain .operand opening :: (word ++ [.plain .operator closing]))
  | emptyCall {token opening closing : Token} {name : String} :
      Name token name → (∀ value, ¬ Literal token value) →
        opening.kind = .openParen →
          closing.kind = .closeParen →
            Phrase .primary (.call name [])
              [.plain .operand token, .plain .operator opening,
                .plain .operand closing]
  | call {token opening : Token} {name : String} {arguments : List Expr}
      {word : List Leaf} :
      Name token name → (∀ value, ¬ Literal token value) →
        opening.kind = .openParen →
          Phrase .arguments arguments word →
            Phrase .primary (.call name arguments)
              (.plain .operand token :: .plain .operator opening :: word)
  | variable {token : Token} {name : String} {indices : List Expr}
      {word : List Leaf} :
      Name token name → (∀ value, ¬ Literal token value) →
        Phrase .indices indices word →
          Phrase .primary (.var name indices) (.plain .operand token :: word)
  | lastArgument {t : Expr} {closing : Token} {word : List Leaf} :
      Phrase .ternary t word → closing.kind = .closeParen →
        Phrase .arguments [t] (word ++ [.plain .operator closing])
  | argument {t : Expr} {ts : List Expr} {comma : Token}
      {first others : List Leaf} :
      Phrase .ternary t first → comma.kind = .comma → Phrase .arguments ts others →
        Phrase .arguments (t :: ts) (first ++ .plain .operator comma :: others)
  | noIndex : Phrase .indices [] []
  | index {t : Expr} {ts : List Expr} {opening closing : Token}
      {first others : List Leaf} :
      opening.kind = .openBracket → Phrase .ternary t first →
        closing.kind = .closeBracket →
          Phrase .indices ts others →
            Phrase .indices (t :: ts)
              (.plain .operator opening ::
                (first ++ .plain .operator closing :: others))

/-- All phrases but indices start with a token that is read as an operand. -/
theorem Phrase.starts
    {symbol : Symbol}
    {yield : symbol.Yield}
    {word : List Leaf}
    (phrase : Phrase symbol yield word)
    (notIndices : symbol ≠ .indices) :
    ∃ leaf rest, word = leaf :: rest ∧ leaf.mode = .operand := by
  have front : ∀ {first more : List Leaf},
      (∃ leaf rest, first = leaf :: rest ∧ leaf.mode = .operand) →
        ∃ leaf rest, first ++ more = leaf :: rest ∧ leaf.mode = .operand := by
    rintro _ more ⟨leaf, rest, rfl, isOperand⟩
    exact ⟨leaf, rest ++ more, rfl, isOperand⟩
  induction phrase with
  | plainTernary _ ih | tighter _ _ ih | tightest _ ih => exact ih nofun
  | plainSign _ _ ih | plainPrimary _ _ _ ih => exact ih nofun
  | conditional _ _ _ _ _ ih | binary _ _ _ _ ih => exact front (ih nofun)
  | lastArgument _ _ ih | argument _ _ _ ih => exact front (ih nofun)
  | negation | sign | defined => exact ⟨_, _, rfl, rfl⟩
  | existingParens | existing | literal | parens => exact ⟨_, _, rfl, rfl⟩
  | emptyCall | call | «variable» => exact ⟨_, _, rfl, rfl⟩
  | noIndex | index => exact absurd rfl notIndices

section

variable {σ : Type} [CharSource σ] {s s' : σ}

/-- The first leaf of a phrase stands where an operand is read. -/
theorem Phrase.exists_first
    {symbol : Symbol}
    {yield : symbol.Yield}
    {word : List Leaf}
    (phrase : Phrase symbol yield word)
    (notIndices : symbol ≠ .indices)
    (chain : Chain s word s')
    {first : Token}
    {s₁ : σ}
    (terminal : Terminal .operand s first s₁) :
    ∃ leaf rest, word = leaf :: rest ∧ leaf.kind = first.kind := by
  rcases phrase.starts notIndices with ⟨leaf, rest, rfl, isOperand⟩
  rcases chain_cons_iff.mp chain with ⟨token, s₂, terminal', fits, -⟩
  rw [isOperand] at terminal'
  exact ⟨leaf, rest, rfl, fits.kind_eq.symm.trans
    (congrArg Token.kind (terminal'.token_eq.symm.trans terminal.token_eq))⟩

/-- What a text derives is a phrase of the tokens in it. -/
theorem Derives.exists_phrase
    {symbol : Symbol}
    {yield : symbol.Yield}
    (derives : Derives symbol s yield s') :
    ∃ word, Phrase symbol yield word ∧ Chain s word s' := by
  have ends : ∀ {kind : TokenKind}, ¬ Closing kind → ¬ kind = .endOfInput :=
    fun notClosing isEnd => notClosing (isEnd ▸ .endOfInput)
  induction derives with
  | plainTernary _ ih =>
      rcases ih with ⟨word, phrase, chain⟩
      exact ⟨word, .plainTernary phrase, chain⟩
  | conditional _ question isQuestion _ colon isColon _ ih ihYes ihNo =>
      rcases ih with ⟨asked, phrase, chain⟩
      rcases ihYes with ⟨first, phraseYes, chainYes⟩
      rcases ihNo with ⟨second, phraseNo, chainNo⟩
      exact ⟨_, .conditional phrase isQuestion phraseYes isColon phraseNo,
        chain.append (.mark question isQuestion (by decide)
          (chainYes.append (.mark colon isColon (by decide) chainNo)))⟩
  | tighter below _ ih =>
      rcases ih with ⟨word, phrase, chain⟩
      exact ⟨word, .tighter below phrase, chain⟩
  | binary _ terminal isBinary ranked _ ih ihRight =>
      rcases ih with ⟨first, phrase, chain⟩
      rcases ihRight with ⟨second, phraseRight, chainRight⟩
      refine ⟨_, .binary phrase isBinary ranked phraseRight,
        chain.append (.operator terminal (fun isEnd => ?_) chainRight)⟩
      rw [isEnd] at isBinary
      cases isBinary
  | tightest _ ih =>
      rcases ih with ⟨word, phrase, chain⟩
      exact ⟨word, .tightest phrase, chain⟩
  | negation terminal negator _ ih =>
      rcases ih with ⟨word, phrase, chain⟩
      exact ⟨_, .negation negator phrase,
        .operator terminal (ends negator.not_closing) chain⟩
  -- A guard speaks of the token that is read first, which is
  -- the first leaf of the phrase.
  | plainSign terminal notNegator _ ih =>
      rcases ih with ⟨word, phrase, chain⟩
      rcases phrase.exists_first (by decide) chain terminal with
        ⟨leaf, rest, rfl, sameKind⟩
      exact ⟨_, .plainSign (sameKind ▸ notNegator) phrase, chain⟩
  | sign terminal isSign _ ih =>
      rcases ih with ⟨word, phrase, chain⟩
      exact ⟨_, .sign isSign phrase,
        .operator terminal (ends isSign.not_closing) chain⟩
  | defined terminal isDefined _ ih =>
      rcases ih with ⟨word, phrase, chain⟩
      refine ⟨_, .defined phrase, .cons terminal isDefined ?_ chain⟩
      rw [isDefined]
      decide
  | plainPrimary terminal notSign notDefined _ ih =>
      rcases ih with ⟨word, phrase, chain⟩
      rcases phrase.exists_first (by decide) chain terminal with
        ⟨leaf, rest, rfl, sameKind⟩
      exact ⟨_, .plainPrimary (sameKind ▸ notSign) (sameKind ▸ notDefined) phrase,
        chain⟩
  | existingParens opening isOpen _ closing isClose ih =>
      rcases ih with ⟨word, phrase, chain⟩
      exact ⟨_, .existingParens isOpen phrase isClose,
        .mark opening isOpen (by decide)
          (chain.append (.mark closing isClose (by decide) .nil))⟩
  | existing terminal isName _ ih =>
      rcases ih with ⟨word, phrase, chain⟩
      exact ⟨_, .existing isName phrase,
        .plain terminal (ends isName.not_closing) chain⟩
  | literal terminal isLiteral =>
      exact ⟨_, .literal isLiteral,
        .plain terminal (ends isLiteral.not_closing) .nil⟩
  | parens opening isOpen _ closing isClose ih =>
      rcases ih with ⟨word, phrase, chain⟩
      exact ⟨_, .parens isOpen phrase isClose,
        .mark opening isOpen (by decide)
          (chain.append (.mark closing isClose (by decide) .nil))⟩
  | emptyCall terminal isName notLiteral opening isOpen closing isClose =>
      exact ⟨_, .emptyCall isName notLiteral isOpen isClose,
        .plain terminal (ends isName.not_closing)
          (.mark opening isOpen (by decide)
            (.mark closing isClose (by decide) .nil))⟩
  | call terminal isName notLiteral opening isOpen _ ih =>
      rcases ih with ⟨word, phrase, chain⟩
      exact ⟨_, .call isName notLiteral isOpen phrase,
        .plain terminal (ends isName.not_closing)
          (.mark opening isOpen (by decide) chain)⟩
  | «variable» terminal isName notLiteral _ ih =>
      rcases ih with ⟨word, phrase, chain⟩
      exact ⟨_, .variable isName notLiteral phrase,
        .plain terminal (ends isName.not_closing) chain⟩
  | lastArgument _ closing isClose ih =>
      rcases ih with ⟨word, phrase, chain⟩
      exact ⟨_, .lastArgument phrase isClose,
        chain.append (.mark closing isClose (by decide) .nil)⟩
  | argument _ comma isComma _ ih ihOthers =>
      rcases ih with ⟨first, phrase, chain⟩
      rcases ihOthers with ⟨others, phraseOthers, chainOthers⟩
      exact ⟨_, .argument phrase isComma phraseOthers,
        chain.append (.mark comma isComma (by decide) chainOthers)⟩
  | noIndex => exact ⟨[], .noIndex, .nil⟩
  | index opening isOpen _ closing isClose _ ih ihOthers =>
      rcases ih with ⟨first, phrase, chain⟩
      rcases ihOthers with ⟨others, phraseOthers, chainOthers⟩
      exact ⟨_, .index isOpen phrase isClose phraseOthers,
        .mark opening isOpen (by decide)
          (chain.append (.mark closing isClose (by decide) chainOthers))⟩

/-- The tokens of a phrase derive what the phrase does, wherever they stand. -/
theorem Phrase.derives
    {symbol : Symbol}
    {yield : symbol.Yield}
    {word : List Leaf}
    (phrase : Phrase symbol yield word)
    (chain : Chain s word s') :
    Derives symbol s yield s' := by
  induction phrase generalizing s s' with
  | plainTernary _ ih => exact .plainTernary (ih chain)
  | conditional _ isQuestion _ isColon _ ih ihYes ihNo =>
      rcases chain_append_iff.mp chain with ⟨_, asked, chain⟩
      rcases chain_cons_iff.mp chain with ⟨_, _, question, fits, -, chain⟩
      rcases chain_append_iff.mp chain with ⟨_, yes, chain⟩
      rcases chain_cons_iff.mp chain with ⟨_, _, colon, fits', -, no⟩
      exact .conditional (ih asked) question
        (fits.kind_eq.trans isQuestion) (ihYes yes)
        colon (fits'.kind_eq.trans isColon) (ihNo no)
  | tighter below _ ih => exact .tighter below (ih chain)
  | binary _ isBinary ranked _ ih ihRight =>
      rcases chain_append_iff.mp chain with ⟨_, left, chain⟩
      rcases chain_cons_iff.mp chain with ⟨_, _, terminal, rfl, -, right⟩
      exact .binary (ih left) terminal isBinary ranked (ihRight right)
  | tightest _ ih => exact .tightest (ih chain)
  | negation negator _ ih =>
      rcases chain_cons_iff.mp chain with ⟨_, _, terminal, rfl, -, operand⟩
      exact .negation terminal negator (ih operand)
  | plainSign notNegator phrase ih =>
      rcases phrase.starts (by decide) with ⟨leaf, rest, same, isOperand⟩
      obtain ⟨rfl, rfl⟩ := List.cons.inj same
      rcases chain_cons_iff.mp chain with ⟨_, _, terminal, fits, -⟩
      exact .plainSign (isOperand ▸ terminal)
        (fits.kind_eq ▸ notNegator) (ih chain)
  | sign isSign _ ih =>
      rcases chain_cons_iff.mp chain with ⟨_, _, terminal, rfl, -, operand⟩
      exact .sign terminal isSign (ih operand)
  | defined _ ih =>
      rcases chain_cons_iff.mp chain with ⟨_, _, terminal, isDefined, -, operand⟩
      exact .defined terminal isDefined (ih operand)
  | plainPrimary notSign notDefined phrase ih =>
      rcases phrase.starts (by decide) with ⟨leaf, rest, same, isOperand⟩
      obtain ⟨rfl, rfl⟩ := List.cons.inj same
      rcases chain_cons_iff.mp chain with ⟨_, _, terminal, fits, -⟩
      exact .plainPrimary (isOperand ▸ terminal) (fits.kind_eq ▸ notSign)
        (fits.kind_eq ▸ notDefined) (ih chain)
  | existingParens isOpen _ isClose ih =>
      rcases chain_cons_iff.mp chain with ⟨_, _, opening, fits, -, chain⟩
      rcases chain_append_iff.mp chain with ⟨_, inner, chain⟩
      rcases chain_cons_iff.mp chain with ⟨_, _, closing, fits', -, ⟨⟩⟩
      exact .existingParens opening (fits.kind_eq.trans isOpen) (ih inner)
        closing (fits'.kind_eq.trans isClose)
  | existing isName _ ih =>
      rcases chain_cons_iff.mp chain with ⟨_, _, terminal, fits, -, indices⟩
      exact .existing terminal (Moved.name fits isName) (ih indices)
  | literal isLiteral =>
      rcases chain_cons_iff.mp chain with ⟨_, _, terminal, fits, -, ⟨⟩⟩
      exact .literal terminal (Moved.literal fits isLiteral)
  | parens isOpen _ isClose ih =>
      rcases chain_cons_iff.mp chain with ⟨_, _, opening, fits, -, chain⟩
      rcases chain_append_iff.mp chain with ⟨_, inner, chain⟩
      rcases chain_cons_iff.mp chain with ⟨_, _, closing, fits', -, ⟨⟩⟩
      exact .parens opening (fits.kind_eq.trans isOpen) (ih inner)
        closing (fits'.kind_eq.trans isClose)
  | emptyCall isName notLiteral isOpen isClose =>
      rcases chain_cons_iff.mp chain with ⟨_, _, terminal, fits, -, chain⟩
      rcases chain_cons_iff.mp chain with ⟨_, _, opening, fits', -, chain⟩
      rcases chain_cons_iff.mp chain with ⟨_, _, closing, fits'', -, ⟨⟩⟩
      exact .emptyCall terminal (Moved.name fits isName)
        (Moved.notLiteral fits notLiteral)
        opening (fits'.kind_eq.trans isOpen) closing (fits''.kind_eq.trans isClose)
  | call isName notLiteral isOpen _ ih =>
      rcases chain_cons_iff.mp chain with ⟨_, _, terminal, fits, -, chain⟩
      rcases chain_cons_iff.mp chain with ⟨_, _, opening, fits', -, arguments⟩
      exact .call terminal (Moved.name fits isName)
        (Moved.notLiteral fits notLiteral)
        opening (fits'.kind_eq.trans isOpen) (ih arguments)
  | «variable» isName notLiteral _ ih =>
      rcases chain_cons_iff.mp chain with ⟨_, _, terminal, fits, -, indices⟩
      exact .variable terminal (Moved.name fits isName)
        (Moved.notLiteral fits notLiteral) (ih indices)
  | lastArgument _ isClose ih =>
      rcases chain_append_iff.mp chain with ⟨_, argument, chain⟩
      rcases chain_cons_iff.mp chain with ⟨_, _, closing, fits, -, ⟨⟩⟩
      exact .lastArgument (ih argument) closing (fits.kind_eq.trans isClose)
  | argument _ isComma _ ih ihOthers =>
      rcases chain_append_iff.mp chain with ⟨_, argument, chain⟩
      rcases chain_cons_iff.mp chain with ⟨_, _, comma, fits, -, others⟩
      exact .argument (ih argument) comma (fits.kind_eq.trans isComma)
        (ihOthers others)
  | noIndex =>
      cases chain
      exact .noIndex
  | index isOpen _ isClose _ ih ihOthers =>
      rcases chain_cons_iff.mp chain with ⟨_, _, opening, fits, -, chain⟩
      rcases chain_append_iff.mp chain with ⟨_, index, chain⟩
      rcases chain_cons_iff.mp chain with ⟨_, _, closing, fits', -, others⟩
      exact .index opening (fits.kind_eq.trans isOpen) (ih index)
        closing (fits'.kind_eq.trans isClose) (ihOthers others)

end

/-! ## Sentences -/

/-- A word of tokens that is a whole expression or, if lists are asked for, a
list of them, and the mode in which the end of the text is read behind it. -/
inductive Sentence : (multiple : Bool) → List Expr → List Leaf → Mode → Prop where
  | last {multiple : Bool} {t : Expr} {word : List Leaf} :
      Phrase .ternary t word → Sentence multiple [t] word .operator
  | trailing {t : Expr} {word : List Leaf} {semicolon : Token} :
      Phrase .ternary t word → semicolon.kind = .semicolon →
        Sentence true [t] (word ++ [.plain .operator semicolon]) .operand
  | more {t : Expr} {ts : List Expr} {word rest : List Leaf} {semicolon : Token}
      {mode : Mode} :
      Phrase .ternary t word → semicolon.kind = .semicolon →
        Sentence true ts rest mode →
          Sentence true (t :: ts) (word ++ .plain .operator semicolon :: rest) mode

section

variable {σ : Type} [CharSource σ] {s s' : σ} {multiple : Bool} {ts : List Expr}

/-- The tokens of the whole text are a sentence. -/
def Reads (multiple : Bool) (s : σ) (ts : List Expr) (word : List Leaf) : Prop :=
  ∃ mode s₁ token s₂, Sentence multiple ts word mode ∧ Chain s word s₁ ∧
    Terminal mode s₁ token s₂ ∧ token.kind = .endOfInput

theorem SpellsRest.exists_reads
    {t : Expr}
    (spells : SpellsRest s' ts)
    (derives : Derives .ternary s t s') :
    ∃ word, Reads true s (t :: ts) word := by
  induction spells generalizing s t with
  | done terminal isEnd =>
      rcases derives.exists_phrase with ⟨word, phrase, chain⟩
      exact ⟨word, _, _, _, _, .last phrase, chain, terminal, isEnd⟩
  | trailing semicolon isSemicolon terminal isEnd =>
      rcases derives.exists_phrase with ⟨word, phrase, chain⟩
      exact ⟨_, _, _, _, _, .trailing phrase isSemicolon,
        chain.append (.mark semicolon isSemicolon (by decide) .nil),
        terminal, isEnd⟩
  | more semicolon isSemicolon next _ ih =>
      rcases derives.exists_phrase with ⟨word, phrase, chain⟩
      rcases ih next with
        ⟨rest, mode, s₁, token, s₂, sentence, chainRest, terminal, isEnd⟩
      exact ⟨_, mode, s₁, token, s₂, .more phrase isSemicolon sentence,
        chain.append (.mark semicolon isSemicolon (by decide) chainRest),
        terminal, isEnd⟩

theorem Sentence.spellsList
    {word : List Leaf}
    {mode : Mode}
    (sentence : Sentence true ts word mode)
    (chain : Chain s word s')
    {token : Token}
    {s₁ : σ}
    (terminal : Terminal mode s' token s₁)
    (isEnd : token.kind = .endOfInput) :
    SpellsList s ts := by
  generalize isList : true = multiple at sentence
  induction sentence generalizing s with
  | last phrase => exact .list (phrase.derives chain) (.done terminal isEnd)
  | trailing phrase isSemicolon =>
      rcases chain_append_iff.mp chain with ⟨_, chain, last⟩
      rcases chain_cons_iff.mp last with ⟨_, _, semicolon, fits, -, ⟨⟩⟩
      exact .list (phrase.derives chain)
        (.trailing semicolon (fits.kind_eq.trans isSemicolon) terminal isEnd)
  | more phrase isSemicolon _ ih =>
      rcases chain_append_iff.mp chain with ⟨_, chain, others⟩
      rcases chain_cons_iff.mp others with ⟨_, _, semicolon, fits, -, others⟩
      rcases ih others terminal rfl with ⟨next, rest⟩
      exact .list (phrase.derives chain)
        (.more semicolon (fits.kind_eq.trans isSemicolon) next rest)

theorem spellsList_iff_exists_reads :
    SpellsList s ts ↔ ∃ word, Reads true s ts word := by
  constructor
  · rintro ⟨derives, rest⟩
    exact rest.exists_reads derives
  · rintro ⟨word, mode, s₁, token, s₂, sentence, chain, terminal, isEnd⟩
    exact sentence.spellsList chain terminal isEnd

theorem spells_iff_exists_reads {t : Expr} :
    Spells s t ↔ ∃ word, Reads false s [t] word := by
  constructor
  · rintro ⟨s₁, token, s₂, derives, terminal, isEnd⟩
    rcases derives.exists_phrase with ⟨word, phrase, chain⟩
    exact ⟨word, _, _, _, _, .last phrase, chain, terminal, isEnd⟩
  · rintro ⟨word, mode, s₁, token, s₂, ⟨phrase⟩, chain, terminal, isEnd⟩
    exact ⟨s₁, token, s₂, phrase.derives chain, terminal, isEnd⟩

/-- What is parsed, as a list or not, is what the tokens of the text are a
sentence of. -/
theorem expressions_eq_ok_iff_exists_reads :
    (expressions multiple (Tokenizer.ofSource s)).1 = .ok ts ↔
      ∃ word, Reads multiple s ts word := by
  cases multiple with
  | true => exact (expressions_eq_ok_iff s ts).trans spellsList_iff_exists_reads
  | false =>
      rw [expressions_false]
      constructor
      · intro parsed
        cases whole : (wholeExpression (Tokenizer.ofSource s)).1 with
        | error e =>
            rw [whole] at parsed
            cases parsed
        | ok t =>
            rw [whole] at parsed
            cases parsed
            exact spells_iff_exists_reads.mp
              ((wholeExpression_eq_ok_iff s t).mp whole)
      · rintro ⟨word, mode, s₁, token, s₂, ⟨phrase⟩, chain, terminal, isEnd⟩
        have spells := spells_iff_exists_reads.mpr
          ⟨word, _, s₁, token, s₂, .last phrase, chain, terminal, isEnd⟩
        rw [(wholeExpression_eq_ok_iff s _).mpr spells]
        rfl

end

end Formula.Grammar

/-! ## Operators -/

namespace Formula.Expr

mutual

/-- The operators of a tree, in the order in which they are written.  The
marks of conditionals are none. -/
def operators : Expr → List Op
  | literal _ => []
  | var _ indices => operatorsOfList indices
  | call _ arguments => operatorsOfList arguments
  | apply op none left none => op :: left.operators
  | apply op none left (some right) => left.operators ++ op :: right.operators
  | apply _ (some condition) left none => condition.operators ++ left.operators
  | apply _ (some condition) left (some right) =>
    condition.operators ++ left.operators ++ right.operators

/-- The operators of a list of trees. -/
def operatorsOfList : List Expr → List Op
  | [] => []
  | t :: ts => t.operators ++ operatorsOfList ts

end

end Formula.Expr

namespace Formula.Grammar

/-- The operator that a token stands for, between two operands or in front of
one. -/
inductive Leaf.Applies : Leaf → Op → Prop where
  | binary {kind : TokenKind} {op : Op} :
      binary? kind = some op → Applies (.operator .operator kind) op
  | negation {kind : TokenKind} {op : Op} :
      Negator kind op → Applies (.operator .operand kind) op
  | sign {kind : TokenKind} {op : Op} :
      Sign kind op → Applies (.operator .operand kind) op
  | defined : Applies (.operator .operand .defined) .defined

/-- The operators of a word, from left to right. -/
inductive Applies : List Leaf → List Op → Prop where
  | nil : Applies [] []
  | operator {leaf : Leaf} {op : Op} {word : List Leaf} {ops : List Op} :
      leaf.Applies op → Applies word ops → Applies (leaf :: word) (op :: ops)
  | plain {mode : Mode} {token : Token} {word : List Leaf} {ops : List Op} :
      Applies word ops → Applies (.plain mode token :: word) ops

/-- The operators of what a symbol yields. -/
def Symbol.operators : (symbol : Symbol) → symbol.Yield → List Op
  | .ternary, t | .binary _, t | .negation, t | .sign, t
  | .existing, t | .primary, t => t.operators
  | .arguments, ts | .indices, ts => Expr.operatorsOfList ts

section

variable {word more : List Leaf} {ops ops' : List Op}

theorem Applies.append
    (first : Applies word ops)
    (second : Applies more ops') :
    Applies (word ++ more) (ops ++ ops') := by
  induction first with
  | nil => exact second
  | operator applies _ ih => exact .operator applies ih
  | plain _ ih => exact .plain ih

/-- Every operator in a word is one of those. -/
theorem Applies.exists_of_mem
    {mode : Mode}
    {kind : TokenKind}
    (applies : Applies word ops)
    (isIn : .operator mode kind ∈ word) :
    ∃ op ∈ ops, Leaf.Applies (.operator mode kind) op := by
  induction applies with
  | nil => cases isIn
  | operator applies _ ih =>
      rcases List.mem_cons.mp isIn with rfl | isIn
      · exact ⟨_, List.mem_cons_self, applies⟩
      · rcases ih isIn with ⟨op, isOp, applies⟩
        exact ⟨op, List.mem_cons_of_mem _ isOp, applies⟩
  | plain _ ih =>
      rcases List.mem_cons.mp isIn with impossible | isIn
      · cases impossible
      · exact ih isIn

/-- The operators of a phrase are those of what it spells. -/
theorem Phrase.applies
    {symbol : Symbol}
    {yield : symbol.Yield}
    (phrase : Phrase symbol yield word) :
    Applies word (symbol.operators yield) := by
  have empty : Expr.operatorsOfList [] = [] := by rw [Expr.operatorsOfList]
  induction phrase with
  | plainTernary _ ih => exact ih
  | conditional _ _ _ _ _ ih ihYes ihNo =>
      rw [Symbol.operators, Expr.operators, List.append_assoc]
      exact ih.append (.plain (ihYes.append (.plain ihNo)))
  | tighter _ _ ih => exact ih
  | binary _ isBinary _ _ ih ihRight =>
      rw [Symbol.operators, Expr.operators]
      exact ih.append (.operator (.binary isBinary) ihRight)
  | tightest _ ih => exact ih
  | negation negator _ ih =>
      rw [Symbol.operators, Expr.operators]
      exact .operator (.negation negator) ih
  | plainSign _ _ ih => exact ih
  | sign isSign _ ih =>
      rw [Symbol.operators, Expr.operators]
      exact .operator (.sign isSign) ih
  | defined _ ih =>
      rw [Symbol.operators, Expr.operators]
      exact .operator .defined ih
  | plainPrimary _ _ _ ih => exact ih
  | existingParens _ _ _ ih =>
      rw [← List.append_nil (Symbol.operators _ _)]
      exact .plain (ih.append (.plain .nil))
  | existing _ _ ih =>
      rw [Symbol.operators, Expr.operators]
      exact .plain ih
  | literal _ =>
      rw [Symbol.operators, Expr.operators]
      exact .plain .nil
  | parens _ _ _ ih =>
      rw [← List.append_nil (Symbol.operators _ _)]
      exact .plain (ih.append (.plain .nil))
  | emptyCall _ _ _ _ =>
      rw [Symbol.operators, Expr.operators, empty]
      exact .plain (.plain (.plain .nil))
  | call _ _ _ _ ih =>
      rw [Symbol.operators, Expr.operators]
      exact .plain (.plain ih)
  | «variable» _ _ _ ih =>
      rw [Symbol.operators, Expr.operators]
      exact .plain ih
  | lastArgument _ _ ih =>
      rw [Symbol.operators, Expr.operatorsOfList, empty]
      exact ih.append (.plain .nil)
  | argument _ _ _ ih ihOthers =>
      rw [Symbol.operators, Expr.operatorsOfList]
      exact ih.append (.plain ihOthers)
  | noIndex =>
      rw [Symbol.operators, empty]
      exact .nil
  | index _ _ _ _ ih ihOthers =>
      rw [Symbol.operators, Expr.operatorsOfList]
      exact .plain (ih.append (.plain ihOthers))

/-- The operators of a sentence are those of its trees. -/
theorem Sentence.applies
    {multiple : Bool}
    {ts : List Expr}
    {mode : Mode}
    (sentence : Sentence multiple ts word mode) :
    Applies word (Expr.operatorsOfList ts) := by
  induction sentence with
  | last phrase =>
      rw [Expr.operatorsOfList, Expr.operatorsOfList, List.append_nil]
      exact phrase.applies
  | trailing phrase _ =>
      rw [Expr.operatorsOfList, Expr.operatorsOfList]
      exact phrase.applies.append (.plain .nil)
  | more phrase _ _ ih =>
      rw [Expr.operatorsOfList]
      exact phrase.applies.append (.plain ih)

end

end Formula.Grammar
