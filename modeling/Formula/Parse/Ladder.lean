import Formula.Expr.Basic
import Formula.Token.Basic

/-!
# The ladder of operators

Binary operators stand on levels, and an operator on a tighter level binds its
operands before one on a looser level does.  All levels associate to the left.
Prefix operators bind tighter than all binary ones.
-/

namespace Formula

/-- The operators of one level, by the kinds of their tokens. -/
abbrev Level :=
  List (TokenKind × Op)

/-- The operator that a kind of token stands for on a level. -/
def Level.op? (level : Level) (kind : TokenKind) : Option Op :=
  if kind = .endOfInput then none else level.lookup kind

theorem Level.ne_endOfInput
    {level : Level}
    {kind : TokenKind}
    {op : Op}
    (found : level.op? kind = some op) :
    kind ≠ .endOfInput := by
  rintro rfl
  simp [Level.op?] at found

/-- The levels of the binary operators, the loosest first. -/
def ladder : List Level :=
  [[(.or, .or)],
   [(.xor, .xor)],
   [(.and, .and)],
   [(.bitOr, .bitOr)],
   [(.bitXor, .bitXor)],
   [(.bitAnd, .bitAnd)],
   [(.eq, .eq), (.ne, .ne), (.intEq, .intEq), (.intNe, .intNe)],
   [(.lt, .lt), (.gt, .gt), (.le, .le), (.ge, .ge), (.cmp, .cmp),
    (.intLt, .intLt), (.intGt, .intGt), (.intLe, .intLe), (.intGe, .intGe),
    (.intCmp, .intCmp)],
   [(.concat, .concat)],
   [(.replicate, .replicate)],
   [(.add, .add), (.sub, .sub), (.intAdd, .intAdd), (.intSub, .intSub)],
   [(.mul, .mul), (.div, .div), (.rem, .rem),
    (.intMul, .intMul), (.intDiv, .intDiv), (.intMod, .intMod)],
   [(.pow, .pow)]]

/-- The operators of negation, which bind looser than the other prefix
operators. -/
def negation? : TokenKind → Option Op
  | .not => some .not
  | .bitNot => some .bitNot
  | _ => none

/-- The prefix operators that apply to any operand. -/
def prefixOp? : TokenKind → Option Op
  | .add => some .plus
  | .sub => some .minus
  | .positive => some .positive
  | .negative => some .negative
  | .toInt => some .toInt
  | .toFloat => some .toFloat
  | .toText => some .toText
  | .toBool => some .toBool
  | .length => some .length
  | .reverse => some .reverse
  | .upper => some .upper
  | .lower => some .lower
  | .decibel => some .decibel
  | _ => none

theorem negation?_ne_endOfInput
    {kind : TokenKind}
    {op : Op}
    (found : negation? kind = some op) :
    kind ≠ .endOfInput := by
  rintro rfl
  simp [negation?] at found

theorem prefixOp?_ne_endOfInput
    {kind : TokenKind}
    {op : Op}
    (found : prefixOp? kind = some op) :
    kind ≠ .endOfInput := by
  rintro rfl
  simp [prefixOp?] at found

end Formula
