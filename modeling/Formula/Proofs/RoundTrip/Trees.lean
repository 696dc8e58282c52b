import Formula.Proofs.RoundTrip.Printer
import Formula.Proofs.RoundTrip.Values

/-!
# Written trees

A tree in infix notation is read as the same tree.  The proof is by induction on
well-formed trees: whatever stands apart from it may follow the text of a tree,
which then is an operand on the level of the tree.
-/

namespace Formula

open Text Grammar

/-- The trees that can be written: operators have the operands that they take,
and literals and names have a text. -/
inductive Expr.WellFormed : Expr → Prop where
  | literal {value : Value} :
      value.Readable → WellFormed (.literal value)
  | «variable» {name : String} {indices : List Expr} :
      IsName name → (∀ index ∈ indices, WellFormed index) →
        WellFormed (.var name indices)
  | call {name : String} {arguments : List Expr} :
      IsName name → (∀ argument ∈ arguments, WellFormed argument) →
        WellFormed (.call name arguments)
  | conditional {condition yes no : Expr} :
      WellFormed condition → WellFormed yes → WellFormed no →
        WellFormed (.conditional condition yes no)
  | binary {op : Op} {rank : Nat} {left right : Expr} :
      rank? op = some rank → WellFormed left → WellFormed right →
        WellFormed (.binary op left right)
  | negation {kind : TokenKind} {op : Op} {operand : Expr} :
      Negator kind op → WellFormed operand →
        WellFormed (.unary op operand)
  | sign {kind : TokenKind} {op : Op} {operand : Expr} :
      Sign kind op → WellFormed operand →
        WellFormed (.unary op operand)
  | defined {name : String} {indices : List Expr} :
      IsName name → (∀ index ∈ indices, WellFormed index) →
        WellFormed (.unary .defined (.var name indices))

namespace Grammar

variable {rest : List Char}

/-- A name behind a colon is a token that gives the name. -/
theorem Lexeme.name
    {name : String}
    (isName : IsName name)
    (apart : Apart rest) :
    Lexeme .operand (':' :: name.toList) rest
      (fun token => token.kind = .identifier ∧ Name token name) := by
  rcases isName with ⟨first, run, chars, starts, belongs⟩
  have same : String.ofList (first :: run) = name := by
    rw [← chars, String.ofList_toList]
  rw [chars, ← same]
  exact .identifier starts belongs apart

/-- The text of a tree is an operand on the level of the tree, whatever stands
apart behind it. -/
def Legible (t : Expr) : Prop :=
  ∀ {rest}, Apart rest → Operand t.level t.written.toList rest t

/-- In parentheses or not, a legible tree fits where a level is asked for. -/
theorem Legible.enclosed
    {t : Expr}
    {asked : Nat}
    (legible : Legible t)
    (within : asked ≤ ranks + 3)
    (apart : Apart rest) :
    Operand asked (Expr.enclosed asked t.level t.written).toList rest t := by
  by_cases looser : t.level < asked
  · have closed : Apart (')' :: rest) := apart_cons rest rfl (by decide)
    have inParens := (Operand.parens (legible closed).ternary).loosen within
    rw [Expr.enclosed, if_pos looser]
    simpa using inParens
  · rw [Expr.enclosed, if_neg looser]
    exact (legible apart).loosen (Nat.le_of_not_lt looser)

/-! ## Variables and calls -/

section Lists

variable {trees : List Expr} {name : String}

theorem Spans.writtenIndices
    (rest : List Char)
    (legible : ∀ t ∈ trees, Legible t) :
    Spans .indices (Expr.writtenIndices trees).toList rest trees := by
  induction trees with
  | nil => exact .noIndex
  | cons t trees ih =>
      have first : Spans .ternary t.written.toList
          (']' :: ((Expr.writtenIndices trees).toList ++ rest)) t :=
        (legible t List.mem_cons_self (apart_cons _ rfl (by decide))).ternary
      have others :=
        ih fun t isMember => legible t (List.mem_cons_of_mem _ isMember)
      simpa [Expr.writtenIndices] using first.index others

theorem Spans.writtenArguments
    {t : Expr}
    (rest : List Char)
    (legible : ∀ t' ∈ t :: trees, Legible t') :
    Spans .arguments ((Expr.writtenArguments (t :: trees)).toList ++ [')'])
      rest (t :: trees) := by
  induction trees generalizing t with
  | nil =>
      have last : Spans .ternary t.written.toList (')' :: rest) t :=
        (legible t List.mem_cons_self (apart_cons _ rfl (by decide))).ternary
      simpa [Expr.writtenArguments, Expr.writtenFurther] using last.lastArgument
  | cons next trees ih =>
      have others :=
        (ih fun t isMember => legible t (List.mem_cons_of_mem _ isMember)).of_blank
        nofun (rfl : isBlank ' ')
      have first : Spans .ternary t.written.toList
          (',' :: (' ' ::
            ((Expr.writtenArguments (next :: trees)).toList ++ [')']) ++ rest))
              t :=
        (legible t List.mem_cons_self (apart_cons _ rfl (by decide))).ternary
      simpa [Expr.writtenArguments,
        Expr.writtenFurther] using first.argument others

/-- Indices do not go on with the name in front of them. -/
theorem apart_writtenIndices
    (trees : List Expr)
    (apart : Apart rest) :
    Apart ((Expr.writtenIndices trees).toList ++ rest) := by
  cases trees with
  | nil => exact apart
  | cons t trees =>
      have bracket : Apart ('[' :: (t.written.toList ++
          (']' :: ((Expr.writtenIndices trees).toList ++ rest)))) :=
        apart_cons _ rfl (by decide)
      simpa [Expr.writtenIndices] using bracket

theorem legible_variable
    (isName : IsName name)
    (legible : ∀ index ∈ trees, Legible index) :
    Legible (.var name trees) := by
  intro rest apart
  have lexeme := Lexeme.name isName (apart_writtenIndices trees apart)
  have whole := Operand.variable lexeme (.writtenIndices rest legible)
  simpa [Expr.written, Expr.level] using whole

theorem legible_call
    (isName : IsName name)
    (legible : ∀ argument ∈ trees, Legible argument) :
    Legible (.call name trees) := by
  intro rest apart
  have lexeme : ∀ more, Lexeme .operand (':' :: name.toList) ('(' :: more)
      fun token => token.kind = .identifier ∧ Name token name :=
    fun more => .name isName (apart_cons more rfl (by decide))
  cases trees with
  | nil =>
      have whole := Operand.emptyCall (lexeme (')' :: rest))
      simpa [Expr.written, Expr.writtenArguments, Expr.level] using whole
  | cons t trees =>
      have whole := Operand.call (lexeme _) (.writtenArguments rest legible)
      simpa [Expr.written, Expr.level] using whole

theorem legible_defined
    (isName : IsName name)
    (legible : ∀ index ∈ trees, Legible index) :
    Legible (.unary .defined (.var name trees)) := by
  intro rest apart
  have lexeme := Lexeme.name isName (apart_writtenIndices trees apart)
  have operand :=
    (Spans.existing lexeme (.writtenIndices rest legible)).of_blank nofun
      (rfl : isBlank ' ')
  have whole := Operand.defined Lexeme.defined operand
  simpa [Expr.written, Expr.enclosed, Expr.level, Op.level_defined] using whole

end Lists

/-! ## Operators -/

section Operators

variable {t left right condition yes no : Expr} {op : Op}

theorem legible_negation
    {kind : TokenKind}
    (isNegator : Negator kind op)
    (legible : Legible t) :
    Legible (.unary op t) := by
  intro rest apart
  have operand := legible.enclosed (Nat.le_add_right (ranks + 1) 2) apart
  have spans :=
    (operand.negation (Nat.lt_succ_self ranks)).of_blank nofun (rfl : isBlank ' ')
  have whole := Operand.of_negation (.negation (Lexeme.negator isNegator) spans)
  simpa [Expr.written, Expr.level, Op.level_of_negator isNegator] using whole

theorem legible_sign
    {kind : TokenKind}
    (isSign : Sign kind op)
    (legible : Legible t) :
    Legible (.unary op t) := by
  intro rest apart
  have operand := legible.enclosed (Nat.le_add_right (ranks + 2) 1) apart
  have spans :=
    (operand.sign (Nat.lt_succ_self _)).of_blank nofun (rfl : isBlank ' ')
  have whole := Operand.prefixed (Lexeme.sign isSign) spans
  simpa [Expr.written, Expr.level, Op.level_of_sign isSign] using whole

theorem legible_binary
    {rank : Nat}
    (ranked : rank? op = some rank)
    (legibleLeft : Legible left)
    (legibleRight : Legible right) :
    Legible (.binary op left right) := by
  intro rest apart
  have below := lt_ranks ranked
  have spansLeft : ∀ more, Spans (.binary rank)
      (Expr.enclosed (rank + 1) left.level left.written).toList
      (' ' :: more) left :=
    fun more =>
      have within : rank + 1 ≤ ranks + 3 :=
        Nat.le_trans below (Nat.le_add_right ranks 3)
      (legibleLeft.enclosed within (apart_space more)).binary
      (Nat.lt_succ_self rank)
        (Nat.le_of_lt below)
  have spansRight : Spans (.binary (rank + 1))
      (' ' :: (Expr.enclosed (rank + 2) right.level right.written).toList)
      rest right :=
    have within : rank + 2 ≤ ranks + 3 :=
      Nat.le_trans (Nat.succ_le_succ below) (Nat.le_add_right (ranks + 1) 2)
    ((legibleRight.enclosed within apart).binary (Nat.lt_succ_self _)
      below).of_blank nofun rfl
  have lexeme : ∀ more, Lexeme .operator (' ' :: op.symbol.toList) (' ' :: more)
      (binary? ·.kind = some op) :=
    fun _ => (Lexeme.binary ranked).of_blank rfl
  have whole := Operand.of_binary below
    (.binary ranked (spansLeft _) (lexeme _) spansRight)
  simpa [Expr.written, Expr.level, Op.level_of_rank ranked] using whole

/-- The branches of a conditional are between other tokens, and so need no
parentheses. -/
theorem legible_conditional
    (legibleCondition : Legible condition)
    (legibleYes : Legible yes)
    (legibleNo : Legible no) :
    Legible (.conditional condition yes no) := by
  intro rest apart
  have spansCondition : ∀ more, Spans (.binary 0)
      (Expr.enclosed 1 condition.level condition.written).toList
      (' ' :: more) condition :=
    fun more =>
      have within : 1 ≤ ranks + 3 := Nat.le_add_left 1 (ranks + 2)
      (legibleCondition.enclosed within (apart_space more)).binary Nat.zero_lt_one
        (Nat.zero_le ranks)
  have question : ∀ more, Lexeme .operator [' ', '?'] more (·.kind = .question) :=
    fun _ => (Lexeme.mark .question).of_blank rfl
  have spansYes :
      ∀ more, Spans .ternary (' ' :: yes.written.toList) (' ' :: more) yes :=
    fun more => (legibleYes (apart_space more)).ternary.of_blank nofun rfl
  have colon :
      ∀ more, Lexeme .operator [' ', ':'] (' ' :: more) (·.kind = .colon) :=
    fun _ => (Lexeme.colon rfl).of_blank rfl
  have spansNo : Spans .ternary (' ' :: no.written.toList) rest no :=
    (legibleNo apart).ternary.of_blank nofun rfl
  have whole := Operand.of_ternary
    (.conditional (spansCondition _) (question _) (spansYes _) (colon _) spansNo)
  simpa [Expr.written, Expr.level, Op.level] using whole

end Operators

end Grammar

/-- The text of a well-formed tree is an operand on the level of the tree. -/
theorem Expr.WellFormed.legible
    {t : Expr}
    (wellFormed : t.WellFormed) :
    Legible t := by
  induction wellFormed with
  | literal readable => exact fun apart => .literal (.value readable apart)
  | «variable» isName _ ih => exact legible_variable isName ih
  | call isName _ ih => exact legible_call isName ih
  | conditional _ _ _ ihCondition ihYes ihNo =>
      exact legible_conditional ihCondition ihYes ihNo
  | binary ranked _ _ ihLeft ihRight => exact legible_binary ranked ihLeft ihRight
  | negation isNegator _ ih => exact legible_negation isNegator ih
  | sign isSign _ ih => exact legible_sign isSign ih
  | defined isName _ ih => exact legible_defined isName ih

namespace Expr

/-- The text of a well-formed tree spells the tree. -/
theorem WellFormed.spells
    {t : Expr}
    (wellFormed : t.WellFormed) :
    Spells (Reader.ofList t.written.toList) t := by
  have spans : Spans .ternary t.written.toList [] t :=
    (wellFormed.legible apart_nil).ternary
  have derives := spans []
  rcases Lexeme.endOfInput (t.written.toList.reverse ++ []) with
    ⟨token, terminal, isEnd⟩
  rw [List.append_nil] at derives
  exact ⟨_, token, _, derives, terminal, isEnd⟩

/-- What is read from the text of a well-formed tree is the tree. -/
theorem WellFormed.wholeExpression_written
    {t : Expr}
    (wellFormed : t.WellFormed) :
    (Parse.wholeExpression (Tokenizer.ofSource (Cursor.ofString t.written))).1 =
      .ok t := by
  rw [Parse.wholeExpression_text]
  exact (wholeExpression_eq_ok_iff _ t).mpr wellFormed.spells

theorem wholeExpression_written_of_signs :
    ∃ t : Expr,
      t = .conditional (.unary .defined (.var "a" []))
        (.binary .sub
          (.call "f" [.literal (.int 1), .var "b" [.literal (.float 0.5)]])
          (.binary .sub (.literal (.int (-5)))
            (.unary .minus (.literal (.int 2)))))
        (.var "c" []) ∧
      t.written = "ex :a ? :f(1, :b[0.5]) - (-5 - - 2) : :c" ∧
      t.WellFormed ∧
      (Parse.wholeExpression (Tokenizer.ofSource (Cursor.ofString t.written))).1 =
        .ok t := by
  have isName : ∀ c, isNameFirst c → IsName (String.ofList [c]) :=
    fun c starts => ⟨c, [], String.toList_ofList, starts, nofun⟩
  have int : ∀ n, WellFormed (.literal (.int n)) :=
    fun n => .literal (Value.readable_of_ne_float nofun)
  have half : WellFormed (.literal (.float 0.5)) :=
    .literal (Value.readable_float (by decide +kernel) (by decide +kernel))
  have wellFormed : WellFormed (.conditional (.unary .defined (.var "a" []))
      (.binary .sub
        (.call "f" [.literal (.int 1), .var "b" [.literal (.float 0.5)]])
        (.binary .sub (.literal (.int (-5))) (.unary .minus (.literal (.int 2)))))
      (.var "c" [])) := by
    refine .conditional (.defined (isName 'a' rfl) nofun)
      (.binary rfl (.call (isName 'f' rfl) ?_)
      (.binary rfl (int _) (.sign .minus (int _))))
      (.variable (isName 'c' rfl) nofun)
    simp only [List.forall_mem_cons]
    refine ⟨int _, .variable (isName 'b' rfl) ?_, nofun⟩
    simp only [List.forall_mem_cons]
    exact ⟨half, nofun⟩
  exact ⟨_, rfl, by decide +kernel, wellFormed, wellFormed.wholeExpression_written⟩

end Expr

/-- The text of a well-formed tree is read as a list whose only member is the
tree. -/
theorem Expression.parse_written
    {t : Expr}
    (wellFormed : t.WellFormed) :
    parse t.written true = .ok ⟨[t]⟩ := by
  rcases wellFormed.spells with ⟨_, token, _, derives, terminal, isEnd⟩
  have spells := SpellsList.list derives (.done terminal isEnd)
  rw [parse, parseSource, Parse.expressions_text,
    (expressions_eq_ok_iff _ _).mpr spells]
  rfl

end Formula
