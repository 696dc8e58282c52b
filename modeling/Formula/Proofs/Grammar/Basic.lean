import Formula.Expr.Basic
import Formula.Parse.Feed

/-!
# The grammar of expressions

What it means that a text spells an expression, said without a parser.  The
terminals of the grammar are tokens at positions in the text.  A position is a
source of characters, and which token stands at it depends on the mode it is
read in: an operand is read as one, and everything else as what may follow one.
-/

namespace Formula.Grammar

/-! ## Terminals -/

/-- With blanks in front of it or not, a token stands at the first position when
it is read in a mode, and the second position is behind it. -/
structure Terminal {σ : Type} [CharSource σ]
    (mode : Mode)
    (s : σ)
    (token : Token)
    (s' : σ) :
    Prop where
  token_eq : ((Tokenizer.ofSource s).scan mode.flags).token = token
  source_eq : ((Tokenizer.ofSource s).scan mode.flags).source = s'
  wellFormed : token.kind ≠ .error

/-- The tokens that are values by themselves. -/
inductive Literal : Token → Value → Prop where
  | string {token : Token} :
      token.kind = .string → Literal token (.str token.text)
  | null {token : Token} :
      token.kind = .constNull → Literal token .null
  | absent {token : Token} :
      token.kind = .constAbsent → Literal token .absent
  | true {token : Token} :
      token.kind = .constTrue → Literal token (.bool true)
  | false {token : Token} :
      token.kind = .constFalse → Literal token (.bool false)
  | int {token : Token} {n : Int64} :
      token.kind = .integer ∨ token.kind = .float →
        token.literal = some (.int n) → Literal token (.int n)
  | float {token : Token} {x : Float} :
      token.kind = .integer ∨ token.kind = .float →
        token.literal = some (.float x) → Literal token (.float x)

/-- The tokens that can be names: those behind a colon, and words, reserved or
not. -/
inductive Name : Token → String → Prop where
  | identifier {token : Token} :
      token.kind = .identifier → Name token token.text
  | bareword {token : Token} :
      token.kind = .bareword → Name token token.text
  | keyword {token : Token} {first : Char} :
      token.kind.isKeyword → token.text.toList.head? = some first →
        Text.isNameFirst first → Name token token.text

/-- The operator between two operands that a kind of tokens stands for. -/
def binary? : TokenKind → Option Op
  | .or => some .or
  | .xor => some .xor
  | .and => some .and
  | .bitOr => some .bitOr
  | .bitXor => some .bitXor
  | .bitAnd => some .bitAnd
  | .eq => some .eq
  | .ne => some .ne
  | .intEq => some .intEq
  | .intNe => some .intNe
  | .lt => some .lt
  | .gt => some .gt
  | .le => some .le
  | .ge => some .ge
  | .cmp => some .cmp
  | .intLt => some .intLt
  | .intGt => some .intGt
  | .intLe => some .intLe
  | .intGe => some .intGe
  | .intCmp => some .intCmp
  | .concat => some .concat
  | .replicate => some .replicate
  | .add => some .add
  | .sub => some .sub
  | .intAdd => some .intAdd
  | .intSub => some .intSub
  | .mul => some .mul
  | .div => some .div
  | .rem => some .rem
  | .intMul => some .intMul
  | .intDiv => some .intDiv
  | .intMod => some .intMod
  | .pow => some .pow
  | _ => none

/-- The level on which an operator between two operands stands, from the loosest
to the tightest. -/
def rank? : Op → Option Nat
  | .or => some 0
  | .xor => some 1
  | .and => some 2
  | .bitOr => some 3
  | .bitXor => some 4
  | .bitAnd => some 5
  | .eq | .ne | .intEq | .intNe => some 6
  | .lt | .gt | .le | .ge | .cmp => some 7
  | .intLt | .intGt | .intLe | .intGe | .intCmp => some 7
  | .concat => some 8
  | .replicate => some 9
  | .add | .sub | .intAdd | .intSub => some 10
  | .mul | .div | .rem | .intMul | .intDiv | .intMod => some 11
  | .pow => some 12
  | _ => none

/-- How many levels there are. -/
def ranks : Nat :=
  13

/-- The two operators of negation, by the kinds of their tokens. -/
inductive Negator : TokenKind → Op → Prop where
  | not : Negator .not .not
  | bitNot : Negator .bitNot .bitNot

/-- The other operators in front of any operand, by the kinds of their tokens. -/
inductive Sign : TokenKind → Op → Prop where
  | plus : Sign .add .plus
  | minus : Sign .sub .minus
  | positive : Sign .positive .positive
  | negative : Sign .negative .negative
  | toInt : Sign .toInt .toInt
  | toFloat : Sign .toFloat .toFloat
  | toText : Sign .toText .toText
  | toBool : Sign .toBool .toBool
  | length : Sign .length .length
  | reverse : Sign .reverse .reverse
  | upper : Sign .upper .upper
  | lower : Sign .lower .lower
  | decibel : Sign .decibel .decibel

/-! ## Rules -/

/-- The symbols of the grammar. -/
inductive Symbol where
  | ternary
  | binary (rank : Nat)
  | negation
  | sign
  | existing
  | primary
  | arguments
  | indices
  deriving DecidableEq, Repr

/-- What a symbol derives: a tree, or a list of them. -/
abbrev Symbol.Yield : Symbol → Type
  | arguments | indices => List Expr
  | _ => Expr

/--
`Derives symbol s yield s'` says that the text between two positions spells what
the symbol yields.  Words that are operators can be names as well, and where
both is possible they are operators: hence the conditions on the first token in
`plainSign` and `plainPrimary`.
-/
inductive Derives {σ : Type} [CharSource σ] :
    (symbol : Symbol) → σ → symbol.Yield → σ → Prop where
  | plainTernary {s s' : σ} {t : Expr} :
      Derives (.binary 0) s t s' →
        Derives .ternary s t s'
  | conditional {s s₁ s₂ s₃ s₄ s' : σ} {condition yes no : Expr}
      {question colon : Token} :
      Derives (.binary 0) s condition s₁ →
        Terminal .operator s₁ question s₂ → question.kind = .question →
          Derives .ternary s₂ yes s₃ →
            Terminal .operator s₃ colon s₄ → colon.kind = .colon →
              Derives .ternary s₄ no s' →
                Derives .ternary s (.conditional condition yes no) s'
  | tighter {rank : Nat} {s s' : σ} {t : Expr} :
      rank < ranks →
        Derives (.binary (rank + 1)) s t s' →
          Derives (.binary rank) s t s'
  | binary {rank : Nat} {s s₁ s₂ s' : σ} {left right : Expr} {token : Token}
      {op : Op} :
      Derives (.binary rank) s left s₁ →
        Terminal .operator s₁ token s₂ →
          binary? token.kind = some op → rank? op = some rank →
            Derives (.binary (rank + 1)) s₂ right s' →
              Derives (.binary rank) s (.binary op left right) s'
  | tightest {s s' : σ} {t : Expr} :
      Derives .negation s t s' →
        Derives (.binary ranks) s t s'
  | negation {s s₁ s' : σ} {operand : Expr} {token : Token} {op : Op} :
      Terminal .operand s token s₁ → Negator token.kind op →
        Derives .negation s₁ operand s' →
          Derives .negation s (.unary op operand) s'
  | plainSign {s s₁ s' : σ} {t : Expr} {first : Token} :
      Terminal .operand s first s₁ → (∀ op, ¬ Negator first.kind op) →
        Derives .sign s t s' →
          Derives .negation s t s'
  | sign {s s₁ s' : σ} {operand : Expr} {token : Token} {op : Op} :
      Terminal .operand s token s₁ → Sign token.kind op →
        Derives .sign s₁ operand s' →
          Derives .sign s (.unary op operand) s'
  | defined {s s₁ s' : σ} {operand : Expr} {token : Token} :
      Terminal .operand s token s₁ → token.kind = .defined →
        Derives .existing s₁ operand s' →
          Derives .sign s (.unary .defined operand) s'
  | plainPrimary {s s₁ s' : σ} {t : Expr} {first : Token} :
      Terminal .operand s first s₁ →
        (∀ op, ¬ Sign first.kind op) → first.kind ≠ .defined →
          Derives .primary s t s' →
            Derives .sign s t s'
  | existingParens {s s₁ s₂ s' : σ} {t : Expr} {opening closing : Token} :
      Terminal .operand s opening s₁ → opening.kind = .openParen →
        Derives .existing s₁ t s₂ →
          Terminal .operator s₂ closing s' → closing.kind = .closeParen →
            Derives .existing s t s'
  | existing {s s₁ s' : σ} {token : Token} {name : String} {indices : List Expr} :
      Terminal .operand s token s₁ → Name token name →
        Derives .indices s₁ indices s' →
          Derives .existing s (.var name indices) s'
  | literal {s s' : σ} {token : Token} {value : Value} :
      Terminal .operand s token s' → Literal token value →
        Derives .primary s (.literal value) s'
  | parens {s s₁ s₂ s' : σ} {t : Expr} {opening closing : Token} :
      Terminal .operand s opening s₁ → opening.kind = .openParen →
        Derives .ternary s₁ t s₂ →
          Terminal .operator s₂ closing s' → closing.kind = .closeParen →
            Derives .primary s t s'
  | emptyCall {s s₁ s₂ s' : σ} {token opening closing : Token} {name : String} :
      Terminal .operand s token s₁ → Name token name →
        (∀ value, ¬ Literal token value) →
          Terminal .operator s₁ opening s₂ → opening.kind = .openParen →
            Terminal .operand s₂ closing s' → closing.kind = .closeParen →
              Derives .primary s (.call name []) s'
  | call {s s₁ s₂ s' : σ} {token opening : Token} {name : String}
      {arguments : List Expr} :
      Terminal .operand s token s₁ → Name token name →
        (∀ value, ¬ Literal token value) →
          Terminal .operator s₁ opening s₂ → opening.kind = .openParen →
            Derives .arguments s₂ arguments s' →
              Derives .primary s (.call name arguments) s'
  | variable {s s₁ s' : σ} {token : Token} {name : String} {indices : List Expr} :
      Terminal .operand s token s₁ → Name token name →
        (∀ value, ¬ Literal token value) →
          Derives .indices s₁ indices s' →
            Derives .primary s (.var name indices) s'
  | lastArgument {s s₁ s' : σ} {t : Expr} {closing : Token} :
      Derives .ternary s t s₁ →
        Terminal .operator s₁ closing s' → closing.kind = .closeParen →
          Derives .arguments s [t] s'
  | argument {s s₁ s₂ s' : σ} {t : Expr} {ts : List Expr} {comma : Token} :
      Derives .ternary s t s₁ →
        Terminal .operator s₁ comma s₂ → comma.kind = .comma →
          Derives .arguments s₂ ts s' →
            Derives .arguments s (t :: ts) s'
  | noIndex {s : σ} :
      Derives .indices s [] s
  | index {s s₁ s₂ s₃ s' : σ} {t : Expr} {ts : List Expr}
      {opening closing : Token} :
      Terminal .operator s opening s₁ → opening.kind = .openBracket →
        Derives .ternary s₁ t s₂ →
          Terminal .operator s₂ closing s₃ → closing.kind = .closeBracket →
            Derives .indices s₃ ts s' →
              Derives .indices s (t :: ts) s'

/-- The whole text from a position on spells a tree. -/
def Spells {σ : Type} [CharSource σ] (s : σ) (t : Expr) : Prop :=
  ∃ s₁ token s₂,
    Derives .ternary s t s₁ ∧ Terminal .operator s₁ token s₂ ∧
      token.kind = .endOfInput

end Formula.Grammar
