import Formula.Parse.Ladder
import Formula.Parse.Outcome
import Formula.Value.Literal

/-!
# Recursive descent

The parser has one function per form of expression, from the conditional, which
binds loosest, down to literals and names.  Each returns an `Outcome`; calls are
ordered by the size of the feed and then by how tightly a form binds.
-/

namespace Formula.Parse

open TokenFeed

variable {τ : Type} [TokenFeed τ]

/-- The value of a token that is a literal by itself. -/
def constant? (token : Token) : Option Value :=
  match token.kind with
  | .string => some (.str token.text)
  | .constNull => some .null
  | .constAbsent => some .absent
  | _ => token.literalValue?

mutual

/-- A condition with two branches, or what stands on the levels below. -/
def conditional (feed : τ) : Outcome τ (size feed) Expr :=
  (levels ladder feed).bind fun condition rest le =>
    match Reading.of .operator rest with
    | .error e rest => .error e rest
    | .token token after _ lt back =>
      if isQuestion : token.kind = .question then
        have shorter : size after < size rest := lt (by simp [isQuestion])
        Outcome.weaken (Nat.le_trans (Nat.le_of_lt shorter) le) <|
          (conditional after).bind fun yes rest le =>
            ((Outcome.expect .colon .colon rest).weaken le).bind fun _ rest le =>
              ((conditional rest).weaken le).map (Expr.conditional condition yes)
      else
        .ok condition (unget after) (Nat.le_trans back le)
termination_by (size feed, 2 * ladder.length + 7)

/-- The binary operators on the given levels, and below them the prefix
operators. -/
def levels (ls : List Level) (feed : τ) : Outcome τ (size feed) Expr :=
  match ls with
  | [] => negation feed
  | level :: tighter =>
    (levels tighter feed).bind fun left rest le =>
      (chain level tighter left rest).weaken le
termination_by (size feed, 2 * ls.length + 5)
decreasing_by
  all_goals
    simp only [Prod.lex_def , List.length_cons, List.length_nil, true_and]
    omega

/-- The operators of one level behind their first operand. -/
def chain (level : Level) (tighter : List Level) (left : Expr) (feed : τ) :
    Outcome τ (size feed) Expr :=
  match Reading.of .operator feed with
  | .error e rest => .error e rest
  | .token token rest _ lt back =>
    match found : level.op? token.kind with
    | none => .ok left (unget rest) back
    | some op =>
      have shorter : size rest < size feed := lt (Level.ne_endOfInput found)
      Outcome.weaken (Nat.le_of_lt shorter) <|
        (levels tighter rest).bind fun right rest le =>
          (chain level tighter (Expr.binary op left right) rest).weaken le
termination_by (size feed, 2 * tighter.length + 6)

/-- A negation, or what the other prefix operators form. -/
def negation (feed : τ) : Outcome τ (size feed) Expr :=
  match Reading.of .operand feed with
  | .error e rest => .error e rest
  | .token token rest _ lt back =>
    match found : negation? token.kind with
    | some op =>
      have shorter : size rest < size feed := lt (negation?_ne_endOfInput found)
      ((negation rest).weaken (Nat.le_of_lt shorter)).map (Expr.unary op)
    | none => (prefixed (unget rest)).weaken back
termination_by (size feed, 4)
decreasing_by all_goals (simp only [Prod.lex_def ]; omega)

/-- A prefix operator with its operand, or a primary. -/
def prefixed (feed : τ) : Outcome τ (size feed) Expr :=
  match Reading.of .operand feed with
  | .error e rest => .error e rest
  | .token token rest _ lt back =>
    match found : prefixOp? token.kind with
    | some op =>
      have shorter : size rest < size feed := lt (prefixOp?_ne_endOfInput found)
      ((prefixed rest).weaken (Nat.le_of_lt shorter)).map (Expr.unary op)
    | none =>
      if isDefined : token.kind = .defined then
        have shorter : size rest < size feed := lt (by simp [isDefined])
        ((existing rest).weaken (Nat.le_of_lt shorter)).map (Expr.unary .defined)
      else
        (primary (unget rest)).weaken back
termination_by (size feed, 3)
decreasing_by all_goals (simp only [Prod.lex_def ]; omega)

/-- A variable whose existence is asked for, in parentheses or not. -/
def existing (feed : τ) : Outcome τ (size feed) Expr :=
  match Reading.of .operand feed with
  | .error e rest => .error e rest
  | .token token rest le lt _ =>
    if isOpen : token.kind = .openParen then
      have shorter : size rest < size feed := lt (by simp [isOpen])
      Outcome.weaken (Nat.le_of_lt shorter) <|
        (existing rest).bind fun expr rest le =>
          ((Outcome.expect .closeParen .closeParen rest).weaken le).map fun _ =>
            expr
    else
      match token.name? with
      | some name => ((indices rest).weaken le).map (Expr.var name)
      | none => .error (token.unexpected .identifier) rest
termination_by (size feed, 1)
decreasing_by all_goals (simp only [Prod.lex_def ]; omega)

/-- A literal, an expression in parentheses, a variable or a call. -/
def primary (feed : τ) : Outcome τ (size feed) Expr :=
  match Reading.of .operand feed with
  | .error e rest => .error e rest
  | .token token rest le lt _ =>
    match constant? token with
    | some value => .ok (.literal value) rest le
    | none =>
      if isOpen : token.kind = .openParen then
        have shorter : size rest < size feed := lt (by simp [isOpen])
        Outcome.weaken (Nat.le_of_lt shorter) <|
          (conditional rest).bind fun expr rest le =>
            ((Outcome.expect .closeParen .closeParen rest).weaken le).map fun _ =>
              expr
      else
        match token.name? with
        | some name => (named name rest).weaken le
        | none => .error (token.unexpected .operand) rest
termination_by (size feed, 2)
decreasing_by all_goals (simp only [Prod.lex_def ]; omega)

/-- A call or a variable, behind its name. -/
def named (name : String) (feed : τ) : Outcome τ (size feed) Expr :=
  match Reading.of .operator feed with
  | .error e rest => .error e rest
  | .token token rest _ lt back =>
    if isOpen : token.kind = .openParen then
      have shorter : size rest < size feed := lt (by simp [isOpen])
      Outcome.weaken (Nat.le_of_lt shorter) <|
        match Reading.of .operand rest with
        | .error e rest => .error e rest
        | .token token last le _ back =>
          if token.kind = .closeParen then .ok (.call name []) last le
          else ((arguments (unget last)).weaken back).map (Expr.call name)
    else
      ((indices (unget rest)).weaken back).map (Expr.var name)
termination_by (size feed, 1)
decreasing_by all_goals (simp only [Prod.lex_def ]; omega)

/-- The arguments of a call up to its closing parenthesis. -/
def arguments (feed : τ) : Outcome τ (size feed) (List Expr) :=
  (conditional feed).bind fun argument rest le =>
    match Reading.of .operator rest with
    | .error e rest => .error e rest
    | .token token after le' lt _ =>
      if isComma : token.kind = .comma then
        have shorter : size after < size rest := lt (by simp [isComma])
        ((arguments after).weaken
          (Nat.le_trans (Nat.le_of_lt shorter) le)).map (argument :: ·)
      else if token.kind = .closeParen then
        .ok [argument] after (Nat.le_trans le' le)
      else .error (token.unexpected .closeParen) after
termination_by (size feed, 2 * ladder.length + 8)

/-- The indices of a variable, each in brackets. -/
def indices (feed : τ) : Outcome τ (size feed) (List Expr) :=
  match Reading.of .operator feed with
  | .error e rest => .error e rest
  | .token token rest _ lt back =>
    if isOpen : token.kind = .openBracket then
      have shorter : size rest < size feed := lt (by simp [isOpen])
      Outcome.weaken (Nat.le_of_lt shorter) <|
        (conditional rest).bind fun index rest le =>
          ((Outcome.expect .closeBracket .closeBracket rest).weaken le).bind
            fun _ rest le => ((indices rest).weaken le).map (index :: ·)
    else
      .ok [] (unget rest) back
termination_by (size feed, 0)

end

/-- The expressions of a list behind the first one, each behind a semicolon.  The
last semicolon may end the list, and unless `multiple` is set there are none. -/
def others (multiple : Bool) (feed : τ) : Outcome τ (size feed) (List Expr) :=
  match Reading.of .operator feed with
  | .error e rest => .error e rest
  | .token token rest le lt _ =>
    if token.kind = .endOfInput then .ok [] rest le
    else if isSemicolon : token.kind = .semicolon ∧ multiple then
      have shorter : size rest < size feed := lt (by simp [isSemicolon.1])
      Outcome.weaken (Nat.le_of_lt shorter) <|
        match Reading.of .operand rest with
        | .error e rest => .error e rest
        | .token token last le _ back =>
          if token.kind = .endOfInput then .ok [] last le
          else
            ((conditional (unget last)).weaken back).bind fun expr rest le =>
              ((others multiple rest).weaken le).map (expr :: ·)
    else .error (token.unexpected .endOfExpression) rest
termination_by size feed

/-! ## What can be parsed -/

/-- Parses one expression and leaves what follows it in the feed. -/
def expression (feed : τ) : Except Error Expr × τ :=
  (conditional feed).plain

/-- Parses one expression that spans the whole input. -/
def wholeExpression (feed : τ) : Except Error Expr × τ :=
  ((conditional feed).bind fun expr rest le =>
    ((Outcome.expect .endOfInput .endOfExpression rest).weaken le).map fun _ =>
      expr).plain

/-- Parses the whole input: one expression, or, if `multiple` is set, a list of
expressions separated by semicolons. -/
def expressions (multiple : Bool) (feed : τ) : Except Error (List Expr) × τ :=
  ((conditional feed).bind fun expr rest le =>
    ((others multiple rest).weaken le).map (expr :: ·)).plain

end Formula.Parse
