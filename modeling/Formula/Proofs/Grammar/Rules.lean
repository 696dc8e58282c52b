import Formula.Proofs.Grammar.Texts

/-!
# Rules for pieces of text

A rule of the grammar puts pieces of text one behind the other.  Each of them
stands in front of those behind it, and all of them in front of the rest of the
text.
-/

namespace Formula.Grammar

/-- One piece of text behind another. -/
def Behind
    (first second : List Char → List Char → Prop)
    (piece rest : List Char) :
    Prop :=
  ∃ left right, piece = left ++ right ∧ first left (right ++ rest) ∧
    second right rest

/-- What is known of the pieces may be told in other words. -/
theorem Behind.imp
    {first second first' second' : List Char → List Char → Prop}
    {piece rest : List Char}
    (behind : Behind first second piece rest)
    (implies : ∀ piece rest, first piece rest → first' piece rest)
    (implies' : ∀ piece rest, second piece rest → second' piece rest) :
    Behind first' second' piece rest := by
  rcases behind with ⟨left, right, rfl, isFirst, isSecond⟩
  exact ⟨left, right, rfl, implies _ _ isFirst, implies' _ _ isSecond⟩

namespace Behind

variable {piece rest : List Char} {t : Expr} {ts : List Expr} {name : String}
  {op : Op}

theorem conditional
    {condition yes no : Expr}
    (behind :
      Behind (Spans (.binary 0) · · condition)
        (Behind (Lexeme .operator · · (·.kind = .question))
          (Behind (Spans .ternary · · yes)
            (Behind (Lexeme .operator · · (·.kind = .colon))
              (Spans .ternary · · no))))
        piece rest) :
    Spans .ternary piece rest (.conditional condition yes no) := by
  rcases behind with
    ⟨left, _, rfl, spans, operator, _, rfl, asks, middle, _, rfl, spansYes,
    separator, right, rfl, separates, spansNo⟩
  intro past
  simp only [List.append_assoc, List.reverse_append] at spans asks spansYes ⊢
  rcases asks (left.reverse ++ past) with ⟨_, terminal, isQuestion⟩
  rcases separates
    (middle.reverse ++ (operator.reverse ++ (left.reverse ++ past))) with
    ⟨_, terminal', isColon⟩
  exact .conditional (spans _) terminal isQuestion (spansYes _) terminal'
    isColon (spansNo _)

theorem binary
    {rank : Nat}
    {left right : Expr}
    (ranked : rank? op = some rank)
    (behind :
      Behind (Spans (.binary rank) · · left)
        (Behind (Lexeme .operator · · (binary? ·.kind = some op))
          (Spans (.binary (rank + 1)) · · right))
        piece rest) :
    Spans (.binary rank) piece rest (.binary op left right) := by
  rcases behind with ⟨first, _, rfl, spans, operator, second, rfl, lexeme, spans'⟩
  intro past
  simp only [List.append_assoc, List.reverse_append] at spans ⊢
  rcases lexeme (first.reverse ++ past) with ⟨_, terminal, isBinary⟩
  exact .binary (spans _) terminal isBinary ranked (spans' _)

theorem negation
    (behind :
      Behind (Lexeme .operand · · (Negator ·.kind op))
        (Spans .negation · · t) piece rest) :
    Spans .negation piece rest (.unary op t) := by
  rcases behind with ⟨operator, operand, rfl, lexeme, spans⟩
  intro past
  simp only [List.append_assoc, List.reverse_append]
  rcases lexeme past with ⟨_, terminal, isNegator⟩
  exact .negation terminal isNegator (spans _)

theorem sign
    (behind : Behind (Lexeme .operand · · (Sign ·.kind op))
      (Spans .sign · · t) piece rest) :
    Spans .sign piece rest (.unary op t) := by
  rcases behind with ⟨operator, operand, rfl, lexeme, spans⟩
  intro past
  simp only [List.append_assoc, List.reverse_append]
  rcases lexeme past with ⟨_, terminal, isSign⟩
  exact .sign terminal isSign (spans _)

theorem defined
    (behind :
      Behind (Lexeme .operand · · (·.kind = .defined))
        (Spans .existing · · t) piece rest) :
    Spans .sign piece rest (.unary .defined t) := by
  rcases behind with ⟨operator, operand, rfl, lexeme, spans⟩
  intro past
  simp only [List.append_assoc, List.reverse_append]
  rcases lexeme past with ⟨_, terminal, isDefined⟩
  exact .defined terminal isDefined (spans _)

theorem existingParens
    (behind :
      Behind (Lexeme .operand · · (·.kind = .openParen))
        (Behind (Spans .existing · · t)
          (Lexeme .operator · · (·.kind = .closeParen)))
        piece rest) :
    Spans .existing piece rest t := by
  rcases behind with ⟨front, _, rfl, opens, inner, back, rfl, spans, closes⟩
  intro past
  simp only [List.append_assoc, List.reverse_append] at opens ⊢
  rcases opens past with ⟨_, terminal, isOpen⟩
  rcases closes (inner.reverse ++ (front.reverse ++ past)) with
    ⟨_, terminal', isClose⟩
  exact .existingParens terminal isOpen (spans _) terminal' isClose

theorem existing
    (behind : Behind (Lexeme .operand · · (Name · name))
      (Spans .indices · · ts) piece rest) :
    Spans .existing piece rest (.var name ts) := by
  rcases behind with ⟨front, indices, rfl, lexeme, spans⟩
  intro past
  simp only [List.append_assoc, List.reverse_append]
  rcases lexeme past with ⟨_, terminal, isName⟩
  exact .existing terminal isName (spans _)

theorem parens
    (behind :
      Behind (Lexeme .operand · · (·.kind = .openParen))
        (Behind (Spans .ternary · · t)
          (Lexeme .operator · · (·.kind = .closeParen)))
        piece rest) :
    Spans .primary piece rest t := by
  rcases behind with ⟨front, _, rfl, opens, inner, back, rfl, spans, closes⟩
  intro past
  simp only [List.append_assoc, List.reverse_append] at opens ⊢
  rcases opens past with ⟨_, terminal, isOpen⟩
  rcases closes (inner.reverse ++ (front.reverse ++ past)) with
    ⟨_, terminal', isClose⟩
  exact .parens terminal isOpen (spans _) terminal' isClose

theorem emptyCall
    (behind :
      Behind (Lexeme .operand · · fun token => Name token name ∧ ∀ value,
        ¬ Literal token value)
        (Behind (Lexeme .operator · · (·.kind = .openParen))
          (Lexeme .operand · · (·.kind = .closeParen)))
        piece rest) :
    Spans .primary piece rest (.call name []) := by
  rcases behind with ⟨front, _, rfl, names, left, right, rfl, opens, closes⟩
  intro past
  simp only [List.append_assoc, List.reverse_append] at names ⊢
  rcases names past with ⟨_, terminal, isName, notLiteral⟩
  rcases opens (front.reverse ++ past) with ⟨_, terminal', isOpen⟩
  rcases closes (left.reverse ++ (front.reverse ++ past)) with
    ⟨_, terminal'', isClose⟩
  exact .emptyCall terminal isName notLiteral terminal' isOpen terminal'' isClose

theorem call
    (behind :
      Behind (Lexeme .operand · · fun token => Name token name ∧ ∀ value,
        ¬ Literal token value)
        (Behind (Lexeme .operator · · (·.kind = .openParen))
          (Spans .arguments · · ts))
        piece rest) :
    Spans .primary piece rest (.call name ts) := by
  rcases behind with ⟨front, _, rfl, names, left, right, rfl, opens, spans⟩
  intro past
  simp only [List.append_assoc, List.reverse_append] at names ⊢
  rcases names past with ⟨_, terminal, isName, notLiteral⟩
  rcases opens (front.reverse ++ past) with ⟨_, terminal', isOpen⟩
  exact .call terminal isName notLiteral terminal' isOpen (spans _)

theorem «variable»
    (behind :
      Behind (Lexeme .operand · · fun token => Name token name ∧ ∀ value,
        ¬ Literal token value)
        (Spans .indices · · ts) piece rest) :
    Spans .primary piece rest (.var name ts) := by
  rcases behind with ⟨front, indices, rfl, lexeme, spans⟩
  intro past
  simp only [List.append_assoc, List.reverse_append]
  rcases lexeme past with ⟨_, terminal, isName, notLiteral⟩
  exact .variable terminal isName notLiteral (spans _)

theorem lastArgument
    (behind :
      Behind (Spans .ternary · · t)
        (Lexeme .operator · · (·.kind = .closeParen)) piece rest) :
    Spans .arguments piece rest [t] := by
  rcases behind with ⟨argument, back, rfl, spans, closes⟩
  intro past
  simp only [List.append_assoc, List.reverse_append]
  rcases closes (argument.reverse ++ past) with ⟨_, terminal, isClose⟩
  exact .lastArgument (spans _) terminal isClose

theorem argument
    (behind :
      Behind (Spans .ternary · · t)
        (Behind (Lexeme .operator · · (·.kind = .comma)) (Spans .arguments · · ts))
        piece rest) :
    Spans .arguments piece rest (t :: ts) := by
  rcases behind with
    ⟨argument, _, rfl, spans, separator, right, rfl, separates, others⟩
  intro past
  simp only [List.append_assoc, List.reverse_append] at spans ⊢
  rcases separates (argument.reverse ++ past) with ⟨_, terminal, isComma⟩
  exact .argument (spans _) terminal isComma (others _)

theorem index
    (behind :
      Behind (Lexeme .operator · · (·.kind = .openBracket))
        (Behind (Spans .ternary · · t)
          (Behind (Lexeme .operator · · (·.kind = .closeBracket))
            (Spans .indices · · ts)))
        piece rest) :
    Spans .indices piece rest (t :: ts) := by
  rcases behind with
    ⟨front, _, rfl, opens, index, _, rfl, spans, back, right, rfl, closes, others⟩
  intro past
  simp only [List.append_assoc, List.reverse_append] at opens spans ⊢
  rcases opens past with ⟨_, terminal, isOpen⟩
  rcases closes (index.reverse ++ (front.reverse ++ past)) with
    ⟨_, terminal', isClose⟩
  exact .index terminal isOpen (spans _) terminal' isClose (others _)

end Behind

end Formula.Grammar
