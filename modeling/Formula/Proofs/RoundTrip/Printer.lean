import Formula.Proofs.Grammar.Basic

/-!
# Infix notation

A tree as people write it, with its operators between its operands and in front
of them.  An operand is in parentheses exactly if it stands on a looser level of
the grammar than the one that is asked for at its place.
-/

namespace Formula

open Grammar

/-- The level on which an operator stands, the looser ones being smaller. -/
def Op.level : Op → Nat
  | .conditional => 0
  | .not | .bitNot => ranks + 1
  | op =>
    match rank? op with
    | some rank => rank + 1
    | none => ranks + 2

theorem Op.level_of_rank
    {op : Op}
    {rank : Nat}
    (ranked : rank? op = some rank) :
    op.level = rank + 1 := by
  cases op <;> cases ranked <;> rfl

theorem Op.level_of_negator
    {kind : TokenKind}
    {op : Op}
    (isNegator : Negator kind op) :
    op.level = ranks + 1 := by
  cases isNegator <;> rfl

theorem Op.level_of_sign
    {kind : TokenKind}
    {op : Op}
    (isSign : Sign kind op) :
    op.level = ranks + 2 := by
  cases isSign <;> rfl

theorem Op.level_defined : Op.defined.level = ranks + 2 :=
  rfl

namespace Expr

/-- The level on which a tree stands.  Nothing is looser than a conditional, and
nothing is tighter than a tree without an operator on top. -/
def level : Expr → Nat
  | apply op _ _ _ => op.level
  | _ => ranks + 3

/-- The text of an operand, at a place where a level is asked for. -/
def enclosed (asked own : Nat) (text : String) : String :=
  if own < asked then "(" ++ text ++ ")" else text

mutual

/--
The tree in infix notation.  A binary operator asks for its own level on its
left and for the next one on its right; an operator in front of its operand asks
for its own level.  The condition of a conditional must not be one itself.
-/
def written : Expr → String
  | literal value => value.quoted
  | var name indices => ":" ++ name ++ writtenIndices indices
  | call name arguments => ":" ++ name ++ "(" ++ writtenArguments arguments ++ ")"
  | apply op _ operand none =>
    op.symbol ++ " " ++ enclosed op.level operand.level operand.written
  | apply op none left (some right) =>
    enclosed op.level left.level left.written ++ " " ++ op.symbol ++ " " ++
      enclosed (op.level + 1) right.level right.written
  | apply _ (some condition) yes (some no) =>
    enclosed 1 condition.level condition.written ++ " ? " ++ yes.written ++
      " : " ++ no.written

/-- Indices, each in brackets. -/
def writtenIndices : List Expr → String
  | [] => ""
  | index :: others => "[" ++ index.written ++ "]" ++ writtenIndices others

/-- Arguments, with commas between them. -/
def writtenArguments : List Expr → String
  | [] => ""
  | argument :: others => argument.written ++ writtenFurther others

/-- The arguments behind the first one. -/
def writtenFurther : List Expr → String
  | [] => ""
  | argument :: others => ", " ++ argument.written ++ writtenFurther others

end

end Expr

end Formula
