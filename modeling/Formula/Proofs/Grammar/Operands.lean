import Formula.Proofs.Grammar.Rules

/-!
# Operands

Where an operand may stand, the grammar asks for a level.  Conditionals are on
the loosest one, zero; binary operators come next in the order of their ranks,
then negations, the other prefix operators, and the primaries.  What is derived
on a tight level is derived on a looser one too, unless its first token is a
word that the looser level takes for an operator.
-/

namespace Formula.Grammar

open Text

section Climbing

variable {σ : Type} [CharSource σ] {s s' : σ} {t : Expr}

/-- A form of a rank is a form of every looser rank. -/
theorem Derives.loosen
    {rank rank' : Nat}
    (derives : Derives (.binary rank') s t s')
    (le : rank ≤ rank')
    (within : rank' ≤ ranks) :
    Derives (.binary rank) s t s' := by
  induction le with
  | refl => exact derives
  | step le ih => exact ih (.tighter within derives) (Nat.le_of_succ_le within)

/-- A negation is a form of every rank. -/
theorem Derives.binary_of_negation
    (rank : Nat)
    (within : rank ≤ ranks)
    (derives : Derives .negation s t s') :
    Derives (.binary rank) s t s' :=
  (Derives.tightest derives).loosen within (Nat.le_refl ranks)

end Climbing

/-- The tokens that are no operators in front of an operand. -/
structure Plain (token : Token) : Prop where
  notNegator : ∀ op, ¬ Negator token.kind op
  notSign : ∀ op, ¬ Sign token.kind op
  notDefined : token.kind ≠ .defined

theorem Plain.literal
    {token : Token}
    {value : Value}
    (isLiteral : Literal token value) :
    Plain token := by
  rcases isLiteral with
    isKind | isKind | isKind | isKind | isKind | ⟨isKind | isKind, _⟩ |
      ⟨isKind | isKind, _⟩ <;>
    constructor <;> rw [isKind] <;> exact nofun

theorem Plain.identifier
    {token : Token}
    (isKind : token.kind = .identifier) :
    Plain token := by
  constructor <;> rw [isKind] <;> exact nofun

theorem Plain.openParen
    {token : Token}
    (isKind : token.kind = .openParen) :
    Plain token := by
  constructor <;> rw [isKind] <;> exact nofun

theorem Sign.notNegator
    {kind : TokenKind}
    {op : Op}
    (isSign : Sign kind op)
    (op' : Op) :
    ¬ Negator kind op' := by
  cases isSign <;> exact nofun

/-- A piece of text is a tree wherever an operand of some level is asked for. -/
structure Operand
    (level : Nat)
    (piece rest : List Char)
    (t : Expr) :
    Prop where
  ternary : Spans .ternary piece rest t
  binary {rank : Nat} :
    rank < level → rank ≤ ranks → Spans (.binary rank) piece rest t
  negation : ranks < level → Spans .negation piece rest t
  sign : ranks + 1 < level → Spans .sign piece rest t

/-- The first token of a text, in front of an operand, has a meaning. -/
def Begins (text : List Char) (meant : Token → Prop) : Prop :=
  ∀ past, ∃ token s,
    Terminal .operand (⟨past, text⟩ : Reader) token s ∧ meant token

variable {piece rest : List Char} {t : Expr}

theorem Lexeme.begins
    {front : List Char}
    {meant meant' : Token → Prop}
    (lexeme : Lexeme .operand front (piece ++ rest) meant)
    (implies : ∀ token, meant token → meant' token) :
    Begins (front ++ piece ++ rest) meant' := by
  intro past
  rcases lexeme past with ⟨token, terminal, isMeant⟩
  rw [List.append_assoc]
  exact ⟨token, _, terminal, implies token isMeant⟩

namespace Operand

/-- What is held together tightly enough for a level is so for every looser one. -/
theorem loosen
    {level level' : Nat}
    (operand : Operand level' piece rest t)
    (le : level ≤ level') :
    Operand level piece rest t where
  ternary := operand.ternary
  binary lt within := operand.binary (Nat.lt_of_lt_of_le lt le) within
  negation lt := operand.negation (Nat.lt_of_lt_of_le lt le)
  sign lt := operand.sign (Nat.lt_of_lt_of_le lt le)

theorem of_ternary
    (spans : Spans .ternary piece rest t) :
    Operand 0 piece rest t where
  ternary := spans
  binary lt := absurd lt (Nat.not_lt_zero _)
  negation lt := absurd lt (Nat.not_lt_zero _)
  sign lt := absurd lt (Nat.not_lt_zero _)

theorem of_binary
    {rank : Nat}
    (below : rank < ranks)
    (spans : Spans (.binary rank) piece rest t) :
    Operand (rank + 1) piece rest t where
  ternary past :=
    .plainTernary ((spans past).loosen (Nat.zero_le rank) (Nat.le_of_lt below))
  binary lt _ past :=
    (spans past).loosen (Nat.le_of_lt_succ lt) (Nat.le_of_lt below)
  negation lt := absurd (Nat.le_of_lt_succ lt) (Nat.not_le_of_lt below)
  sign lt :=
    absurd (Nat.le_of_succ_le (Nat.le_of_lt_succ lt)) (Nat.not_le_of_lt below)

theorem of_negation
    (spans : Spans .negation piece rest t) :
    Operand (ranks + 1) piece rest t where
  ternary past :=
    .plainTernary (.binary_of_negation 0 (Nat.zero_le ranks) (spans past))
  binary _ within past := .binary_of_negation _ within (spans past)
  negation _ := spans
  sign lt := absurd lt (Nat.lt_irrefl _)

theorem of_sign
    (first : Begins (piece ++ rest) fun token => ∀ op, ¬ Negator token.kind op)
    (spans : Spans .sign piece rest t) :
    Operand (ranks + 2) piece rest t := by
  have negation : Spans .negation piece rest t := by
    intro past
    rcases first past with ⟨token, s, terminal, notNegator⟩
    exact .plainSign terminal notNegator (spans past)
  have looser := of_negation negation
  exact ⟨looser.ternary,
    fun _ within => looser.binary (Nat.lt_succ_of_le within) within,
    fun _ => negation, fun _ => spans⟩

theorem of_primary
    (first : Begins (piece ++ rest) Plain)
    (spans : Spans .primary piece rest t) :
    Operand (ranks + 3) piece rest t := by
  have notNegator :
      Begins (piece ++ rest) fun token => ∀ op, ¬ Negator token.kind op := by
    intro past
    rcases first past with ⟨token, s, terminal, plain⟩
    exact ⟨token, s, terminal, plain.notNegator⟩
  have sign : Spans .sign piece rest t := by
    intro past
    rcases first past with ⟨token, s, terminal, plain⟩
    exact .plainPrimary terminal plain.notSign plain.notDefined (spans past)
  have looser := of_sign notNegator sign
  refine ⟨looser.ternary, fun _ within => ?_, fun _ => ?_, fun _ => sign⟩
  · exact looser.binary (Nat.lt_succ_of_le (Nat.le_succ_of_le within)) within
  · exact looser.negation (Nat.lt_succ_of_le (Nat.le_succ _))

end Operand

/-! ## Rules -/

namespace Spans

variable {left middle right operator separator : List Char}

theorem conditional
    {condition yes no : Expr}
    (spansCondition :
      Spans (.binary 0) left
        (operator ++ (middle ++ (separator ++ (right ++ rest)))) condition)
    (question :
      Lexeme .operator operator (middle ++ (separator ++ (right ++ rest)))
        (·.kind = .question))
    (spansYes : Spans .ternary middle (separator ++ (right ++ rest)) yes)
    (colon : Lexeme .operator separator (right ++ rest) (·.kind = .colon))
    (spansNo : Spans .ternary right rest no) :
    Spans .ternary (left ++ (operator ++ (middle ++ (separator ++ right)))) rest
      (.conditional condition yes no) := by
  simp only [← List.append_assoc _ _ rest] at spansCondition question spansYes
  exact Behind.conditional
    ⟨left, _, rfl, spansCondition, operator, _, rfl, question, middle, _,
    rfl, spansYes, separator, right, rfl, colon, spansNo⟩

theorem binary
    {op : Op}
    {rank : Nat}
    {leftTree rightTree : Expr}
    (ranked : rank? op = some rank)
    (spansLeft : Spans (.binary rank) left (operator ++ (right ++ rest)) leftTree)
    (lexeme : Lexeme .operator operator (right ++ rest) (binary? ·.kind = some op))
    (spansRight : Spans (.binary (rank + 1)) right rest rightTree) :
    Spans (.binary rank) (left ++ (operator ++ right)) rest
      (.binary op leftTree rightTree) := by
  rw [← List.append_assoc] at spansLeft
  exact Behind.binary ranked
    ⟨left, _, rfl, spansLeft, operator, right, rfl, lexeme, spansRight⟩

theorem negation
    {op : Op}
    (lexeme : Lexeme .operand operator (right ++ rest) (Negator ·.kind op))
    (spans : Spans .negation right rest t) :
    Spans .negation (operator ++ right) rest (.unary op t) :=
  Behind.negation ⟨operator, right, rfl, lexeme, spans⟩

theorem sign
    {op : Op}
    (lexeme : Lexeme .operand operator (right ++ rest) (Sign ·.kind op))
    (spans : Spans .sign right rest t) :
    Spans .sign (operator ++ right) rest (.unary op t) :=
  Behind.sign ⟨operator, right, rfl, lexeme, spans⟩

theorem defined
    (lexeme : Lexeme .operand operator (right ++ rest) (·.kind = .defined))
    (spans : Spans .existing right rest t) :
    Spans .sign (operator ++ right) rest (.unary .defined t) :=
  Behind.defined ⟨operator, right, rfl, lexeme, spans⟩

theorem existing
    {name : String}
    {indices : List Expr}
    (lexeme : Lexeme .operand left (right ++ rest)
      fun token => token.kind = .identifier ∧ Name token name)
    (spans : Spans .indices right rest indices) :
    Spans .existing (left ++ right) rest (.var name indices) :=
  Behind.existing ⟨left, right, rfl, lexeme.imp fun _ meant => meant.2, spans⟩

theorem literal
    {value : Value}
    (lexeme : Lexeme .operand piece rest (Literal · value)) :
    Spans .primary piece rest (.literal value) := by
  intro past
  rcases lexeme past with ⟨_, terminal, isLiteral⟩
  exact .literal terminal isLiteral

theorem parens
    (spans : Spans .ternary piece (')' :: rest) t) :
    Spans .primary ('(' :: (piece ++ [')'])) rest t :=
  Behind.parens ⟨['('], _, rfl, .mark .openParen, piece, [')'], rfl, spans,
    .mark .closeParen⟩

theorem notLiteral_of_identifier
    {token : Token}
    (isIdentifier : token.kind = .identifier)
    (value : Value) :
    ¬ Literal token value := by
  rintro (isKind | isKind | isKind | isKind | isKind |
    ⟨isKind | isKind, _⟩ | ⟨isKind | isKind, _⟩) <;> simp [isIdentifier] at isKind

/-- What is known of a name behind a colon. -/
theorem lexeme_name
    {name : String}
    (lexeme : Lexeme .operand left rest
      fun token => token.kind = .identifier ∧ Name token name) :
    Lexeme .operand left rest fun token =>
      Name token name ∧ ∀ value, ¬ Literal token value :=
  lexeme.imp fun _ meant => ⟨meant.2, notLiteral_of_identifier meant.1⟩

theorem «variable»
    {name : String}
    {indices : List Expr}
    (lexeme : Lexeme .operand left (right ++ rest)
      fun token => token.kind = .identifier ∧ Name token name)
    (spans : Spans .indices right rest indices) :
    Spans .primary (left ++ right) rest (.var name indices) :=
  Behind.variable ⟨left, right, rfl, lexeme_name lexeme, spans⟩

theorem emptyCall
    {name : String}
    (lexeme : Lexeme .operand left ('(' :: ')' :: rest)
      fun token => token.kind = .identifier ∧ Name token name) :
    Spans .primary (left ++ ['(', ')']) rest (.call name []) :=
  Behind.emptyCall
    ⟨left, _, rfl, lexeme_name lexeme, ['('], [')'], rfl, .mark .openParen,
    .mark .closeParen⟩

theorem call
    {name : String}
    {arguments : List Expr}
    (lexeme : Lexeme .operand left ('(' :: (right ++ rest))
      fun token => token.kind = .identifier ∧ Name token name)
    (spans : Spans .arguments right rest arguments) :
    Spans .primary (left ++ '(' :: right) rest (.call name arguments) :=
  Behind.call ⟨left, _, rfl, lexeme_name lexeme, ['('], right, rfl,
    .mark .openParen, spans⟩

theorem lastArgument
    (spans : Spans .ternary left (')' :: rest) t) :
    Spans .arguments (left ++ [')']) rest [t] :=
  Behind.lastArgument ⟨left, [')'], rfl, spans, .mark .closeParen⟩

theorem argument
    {ts : List Expr}
    (spans : Spans .ternary left (',' :: (right ++ rest)) t)
    (others : Spans .arguments right rest ts) :
    Spans .arguments (left ++ ',' :: right) rest (t :: ts) :=
  Behind.argument ⟨left, _, rfl, spans, [','], right, rfl, .mark .comma, others⟩

theorem noIndex : Spans .indices [] rest [] :=
  fun _ => .noIndex

theorem index
    {ts : List Expr}
    (spans : Spans .ternary left (']' :: (right ++ rest)) t)
    (others : Spans .indices right rest ts) :
    Spans .indices ('[' :: (left ++ ']' :: right)) rest (t :: ts) :=
  Behind.index ⟨['['], _, rfl, .mark .openBracket, left, _, rfl, spans, [']'],
    right, rfl, .mark .closeBracket, others⟩

end Spans

/-! ## Trees by their first token -/

namespace Operand

variable {front : List Char}

/-- A literal can stand everywhere. -/
theorem literal
    {value : Value}
    (lexeme : Lexeme .operand front rest (Literal · value)) :
    Operand (ranks + 3) front rest (.literal value) := by
  have first : Begins (front ++ [] ++ rest) Plain :=
    lexeme.begins fun _ => Plain.literal
  exact .of_primary (List.append_nil front ▸ first) (.literal lexeme)

/-- So can whatever is in parentheses. -/
theorem parens
    (spans : Spans .ternary piece (')' :: rest) t) :
    Operand (ranks + 3) ('(' :: (piece ++ [')'])) rest t := by
  have first : Begins (['('] ++ (piece ++ [')']) ++ rest) Plain :=
    (Lexeme.mark .openParen).begins fun _ => Plain.openParen
  exact .of_primary first (.parens spans)

theorem «variable»
    {name : String}
    {indices : List Expr}
    (lexeme : Lexeme .operand front (piece ++ rest)
      fun token => token.kind = .identifier ∧ Name token name)
    (spans : Spans .indices piece rest indices) :
    Operand (ranks + 3) (front ++ piece) rest (.var name indices) :=
  .of_primary (lexeme.begins fun _ meant => Plain.identifier meant.1)
    (.variable lexeme spans)

theorem emptyCall
    {name : String}
    (lexeme : Lexeme .operand front ('(' :: ')' :: rest)
      fun token => token.kind = .identifier ∧ Name token name) :
    Operand (ranks + 3) (front ++ ['(', ')']) rest (.call name []) := by
  have first : Lexeme .operand front (['(', ')'] ++ rest) Plain :=
    lexeme.imp fun _ meant => Plain.identifier meant.1
  exact .of_primary (first.begins fun _ => id) (.emptyCall lexeme)

theorem call
    {name : String}
    {arguments : List Expr}
    (lexeme : Lexeme .operand front ('(' :: (piece ++ rest))
      fun token => token.kind = .identifier ∧ Name token name)
    (spans : Spans .arguments piece rest arguments) :
    Operand (ranks + 3) (front ++ '(' :: piece) rest (.call name arguments) := by
  have first : Lexeme .operand front (('(' :: piece) ++ rest) Plain :=
    lexeme.imp fun _ meant => Plain.identifier meant.1
  exact .of_primary (first.begins fun _ => id) (.call lexeme spans)

theorem prefixed
    {op : Op}
    (lexeme : Lexeme .operand front (piece ++ rest) (Sign ·.kind op))
    (spans : Spans .sign piece rest t) :
    Operand (ranks + 2) (front ++ piece) rest (.unary op t) :=
  .of_sign (lexeme.begins fun _ => Sign.notNegator) (.sign lexeme spans)

theorem defined
    (lexeme : Lexeme .operand front (piece ++ rest) (·.kind = .defined))
    (spans : Spans .existing piece rest t) :
    Operand (ranks + 2) (front ++ piece) rest (.unary .defined t) := by
  refine .of_sign (lexeme.begins fun token isDefined op => ?_)
    (.defined lexeme spans)
  rw [isDefined]
  exact nofun

end Operand

end Formula.Grammar
