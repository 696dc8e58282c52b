import Formula.Proofs.Expr.Operands
import Formula.Proofs.Shown.Values

/-!
# Shown trees can be told apart

A tree of the right shape is shown with its operator in front, and the parts of
the tree end where a space, a bracket, a parenthesis or a semicolon follows.  So
the text of a tree ends where it has to, whatever follows, and there is only one
tree that is shown in this way.  Signs are written alike in front of one operand
and between two; the number of operands tells which is meant.
-/

namespace Formula

open Text Number Shown

/-! ## Operators -/

/-- All operators. -/
def Op.all : List Op :=
  [conditional, and, or, xor, not, bitAnd, bitOr, bitXor, bitNot, eq, ne, lt, gt,
    le, ge, cmp, intEq, intNe, intLt, intGt, intLe, intGe, intCmp, add, sub, mul,
    div, rem, pow, plus, minus, intAdd, intSub, intMul, intDiv, intMod, concat,
    replicate, length, reverse, upper, lower, toInt, toFloat, toText, toBool,
    positive, negative, decibel, defined]

theorem Op.mem_all (op : Op) : op ∈ all := by
  cases op <;> decide

/-- The symbol and the number of operands tell the operator. -/
theorem Op.eq_of_symbol_eq
    {op op' : Op}
    (sameSymbol : op.symbol = op'.symbol)
    (sameCount : op.form.operands = op'.form.operands) :
    op = op' := by
  have apart : ∀ op ∈ all, ∀ op' ∈ all, op.symbol = op'.symbol →
      op.form.operands = op'.form.operands → op = op' := by decide +kernel
  exact apart op op.mem_all op' op'.mem_all sameSymbol sameCount

theorem Op.symbol_ne_call (op : Op) : op.symbol ≠ "call" := by
  cases op <;> decide

namespace Expr

/-- Trees in one line, each between a text that leads it in and one that closes
it. -/
def listed (lead close : List Char) (trees : List Expr) : List Char :=
  trees.flatMap fun t => lead ++ (t.shown.toList ++ close)

theorem listed_cons
    (lead close : List Char)
    (t : Expr)
    (trees : List Expr) :
    listed lead close (t :: trees) =
      lead ++ (t.shown.toList ++ (close ++ listed lead close trees)) := by
  simp [listed]

theorem toList_shownIndices (indices : List Expr) :
    (shownIndices indices).toList = listed ['['] [']'] indices := by
  induction indices with
  | nil =>
      rw [shownIndices]
      rfl
  | cons index indices ih =>
      rw [shownIndices, listed_cons, ← ih]
      simp

theorem toList_shownArguments (arguments : List Expr) :
    (shownArguments arguments).toList = listed [' '] [] arguments := by
  induction arguments with
  | nil =>
      rw [shownArguments]
      rfl
  | cons argument arguments ih =>
      rw [shownArguments, listed_cons, ← ih]
      simp

theorem toList_shown_var
    (name : String)
    (indices : List Expr) :
    (var name indices).shown.toList =
      ':' :: (name.toList ++ listed ['['] [']'] indices) := by
  rw [shown, ← toList_shownIndices]
  simp

theorem toList_shown_call
    (name : String)
    (arguments : List Expr) :
    (call name arguments).shown.toList =
      '(' ::
        ("call".toList ++
          ' ' :: (name.toList ++ (listed [' '] [] arguments ++ [')']))) := by
  rw [shown, ← toList_shownArguments]
  simp

variable {isName : String → Prop} {isValue isValue' : Value → Prop}

theorem Shaped.toList_shown_apply
    {op : Op}
    {condition right : Option Expr}
    {left : Expr}
    (shaped : Shaped isName isValue (apply op condition left right)) :
    (apply op condition left right).shown.toList =
      '(' :: (op.symbol.toList ++
        (listed [' '] [] (operands condition left right) ++ [')'])) := by
  cases shaped with
  | conditional => simp [shown, listed, operands]
  | defined => simp [shown, listed, operands]
  | unary => simp [shown, listed, operands]
  | binary => simp [shown, listed, operands]

theorem Shaped.shown_ne_nil
    {t : Expr}
    (shaped : Shaped isName isValue t) :
    t.shown.toList ≠ [] := by
  cases t with
  | literal value =>
      rw [shown]
      exact quoted_ne_nil value
  | var name indices =>
      rw [toList_shown_var]
      exact List.cons_ne_nil _ _
  | call name arguments =>
      rw [toList_shown_call]
      exact List.cons_ne_nil _ _
  | apply op condition left right =>
      rw [shaped.toList_shown_apply]
      exact List.cons_ne_nil _ _

/-- The operator and the list of its operands tell the tree. -/
theorem Shaped.apply_eq
    {op op' : Op}
    {condition condition' right right' : Option Expr}
    {left left' : Expr}
    (shaped : Shaped isName isValue (apply op condition left right))
    (shaped' : Shaped isName isValue' (apply op' condition' left' right'))
    (sameSymbol : op.symbol = op'.symbol)
    (sameOperands :
      operands condition left right = operands condition' left' right') :
    apply op condition left right = apply op' condition' left' right' := by
  have sameCount : op.form.operands = op'.form.operands := by
    rw [← shaped.length_operands, sameOperands, shaped'.length_operands]
  obtain rfl := Op.eq_of_symbol_eq sameSymbol sameCount
  cases shaped <;> cases shaped' <;> simp_all [operands]

/-! ## Texts in front of other text -/

/-- A tree ends in front of the text: nothing stands there, or what closes a
place for a tree or leads in the next one. -/
def Ended (rest : List Char) : Prop :=
  ∀ c ∈ rest.head?, c ∈ [' ', ')', ']', ';']

theorem ended_cons
    {c : Char}
    (ends : c ∈ [' ', ')', ']', ';'])
    (rest : List Char) :
    Ended (c :: rest) := by
  rintro _ ⟨⟩
  exact ends

theorem Ended.cut
    {rest : List Char}
    (ended : Ended rest) :
    Cut rest := by
  have among : ∀ c ∈ [' ', ')', ']', ';'], c ∈ marks := by decide
  exact fun c first => among c (ended c first)

/-- A tree can be told from what follows it, and from any other tree of the right
shape. -/
def Unambiguous
    (isValue : Value → Prop)
    (t : Expr) :
    Prop :=
  ∀ {t' rest rest'}, Shaped IsName isValue t' → Ended rest → Ended rest' →
    t.shown.toList ++ rest = t'.shown.toList ++ rest' → t = t' ∧ rest = rest'

/-- Lists of trees in the same notation can be told apart, as long as what leads
in a tree is told from what follows the list. -/
theorem listed_append_inj
    {lead close rest rest' : List Char}
    {first : Char}
    {trees trees' : List Expr}
    (leads : lead.head? = some first)
    (ended : ∀ trees, Ended (close ++ (listed lead close trees ++ rest)))
    (ended' : ∀ trees, Ended (close ++ (listed lead close trees ++ rest')))
    (beyond : rest.head? ≠ some first)
    (beyond' : rest'.head? ≠ some first)
    (unambiguous : ∀ t ∈ trees, Unambiguous isValue t)
    (shaped : ∀ t ∈ trees', Shaped IsName isValue t)
    (same : listed lead close trees ++ rest = listed lead close trees' ++ rest') :
    trees = trees' ∧ rest = rest' := by
  have starts (t : Expr) (trees : List Expr) (rest : List Char) :
      (listed lead close (t :: trees) ++ rest).head? = some first := by
    rw [listed_cons, List.append_assoc, List.head?_append, leads]
    rfl
  induction trees generalizing trees' with
  | nil =>
      cases trees' with
      | nil => exact ⟨rfl, same⟩
      | cons t' trees' =>
          have led := starts t' trees' rest'
          rw [← same] at led
          exact absurd led beyond
  | cons t trees ih =>
      cases trees' with
      | nil =>
          have led := starts t trees rest
          rw [same] at led
          exact absurd led beyond'
      | cons t' trees' =>
          rw [listed_cons, listed_cons] at same
          simp only [List.append_assoc] at same
          rcases unambiguous t List.mem_cons_self
            (shaped t' List.mem_cons_self) (ended trees)
            (ended' trees') (List.append_cancel_left same) with ⟨rfl, sameRest⟩
          rcases ih
            (fun t isMember => unambiguous t (List.mem_cons_of_mem _ isMember))
            (fun t isMember => shaped t (List.mem_cons_of_mem _ isMember))
            (List.append_cancel_left sameRest) with ⟨rfl, sameEnd⟩
          exact ⟨rfl, sameEnd⟩

theorem ended_arguments
    (arguments : List Expr)
    (rest : List Char) :
    Ended (listed [' '] [] arguments ++ ')' :: rest) := by
  cases arguments with
  | nil => exact ended_cons (by decide) rest
  | cons argument arguments => exact ended_cons (by decide) _

theorem arguments_append_inj
    {trees trees' : List Expr}
    {rest rest' : List Char}
    (unambiguous : ∀ t ∈ trees, Unambiguous isValue t)
    (shaped : ∀ t ∈ trees', Shaped IsName isValue t)
    (same : listed [' '] [] trees ++ ')' :: rest =
      listed [' '] [] trees' ++ ')' :: rest') :
    trees = trees' ∧ rest = rest' := by
  rcases listed_append_inj rfl (fun trees => ended_arguments trees rest)
    (fun trees => ended_arguments trees rest') (by simp) (by simp) unambiguous
    shaped same with
    ⟨sameTrees, sameRest⟩
  exact ⟨sameTrees, (List.cons.inj sameRest).2⟩

theorem indices_append_inj
    {trees trees' : List Expr}
    {rest rest' : List Char}
    (ended : Ended rest)
    (ended' : Ended rest')
    (unambiguous : ∀ t ∈ trees, Unambiguous isValue t)
    (shaped : ∀ t ∈ trees', Shaped IsName isValue t)
    (same :
      listed ['['] [']'] trees ++ rest = listed ['['] [']'] trees' ++ rest') :
    trees = trees' ∧ rest = rest' := by
  have beyond {rest : List Char} (ended : Ended rest) : rest.head? ≠ some '[' :=
    fun led => absurd (ended '[' led) (by decide)
  exact listed_append_inj rfl (fun _ => ended_cons (by decide) _)
    (fun _ => ended_cons (by decide) _) (beyond ended) (beyond ended')
    unambiguous shaped same

theorem cut_indices
    {rest : List Char}
    (ended : Ended rest)
    (indices : List Expr) :
    Cut (listed ['['] [']'] indices ++ rest) := by
  cases indices with
  | nil => exact ended.cut
  | cons index indices => exact cut_cons (by decide) _

theorem call_append_ne_symbol
    (op : Op)
    {rest rest' : List Char}
    (cut : Cut rest') :
    "call".toList ++ ' ' :: rest ≠ op.symbol.toList ++ rest' := by
  intro same
  have word : Word "call".toList := ⟨by decide, by decide⟩
  have sameWord :=
    (word.append_inj (word_symbol op) (cut_cons (by decide) rest) cut same).1
  exact op.symbol_ne_call (String.toList_inj.mp sameWord).symm

/-! ## Kinds of trees -/

theorem unambiguous_literal
    {value : Value}
    (distinct :
      ∀ value', isValue value' → ∀ x y, value = .float x → value' = .float y →
        floatText x = floatText y → x = y) :
    Unambiguous isValue (literal value) := by
  intro t' rest rest' shaped ended ended' same
  cases t' with
  | literal value' =>
      cases shaped with
      | literal isValue =>
          rw [shown, shown] at same
          rcases quoted_append_inj (distinct value' isValue) ended.cut
            ended'.cut same with
            ⟨rfl, sameRest⟩
          exact ⟨rfl, sameRest⟩
  | var name indices =>
      rw [shown, toList_shown_var] at same
      exact absurd same (quoted_append_ne_cons (by decide) (by decide))
  | call name arguments =>
      rw [shown, toList_shown_call] at same
      exact absurd same (quoted_append_ne_cons (by decide) (by decide))
  | apply op condition left right =>
      rw [shown, shaped.toList_shown_apply] at same
      exact absurd same (quoted_append_ne_cons (by decide) (by decide))

theorem unambiguous_var
    {name : String}
    {indices : List Expr}
    (isName : IsName name)
    (unambiguous : ∀ index ∈ indices, Unambiguous isValue index) :
    Unambiguous isValue (var name indices) := by
  intro t' rest rest' shaped ended ended' same
  cases t' with
  | literal value' =>
      rw [shown, toList_shown_var] at same
      exact absurd same.symm (quoted_append_ne_cons (by decide) (by decide))
  | var name' indices' =>
      cases shaped with
      | «variable» isName' shaped =>
          simp only [toList_shown_var, List.cons_append, List.append_assoc,
            List.cons.injEq, true_and] at same
          rcases (word_of_isName isName).append_inj (word_of_isName isName')
            (cut_indices ended indices) (cut_indices ended' indices') same with
            ⟨sameName, sameIndices⟩
          rcases indices_append_inj ended ended' unambiguous shaped
            sameIndices with ⟨rfl, sameRest⟩
          rw [String.toList_inj.mp sameName]
          exact ⟨rfl, sameRest⟩
  | call name' arguments =>
      rw [toList_shown_var, toList_shown_call] at same
      cases same
  | apply op condition left right =>
      rw [toList_shown_var, shaped.toList_shown_apply] at same
      cases same

theorem unambiguous_call
    {name : String}
    {arguments : List Expr}
    (isName : IsName name)
    (unambiguous : ∀ argument ∈ arguments, Unambiguous isValue argument) :
    Unambiguous isValue (call name arguments) := by
  intro t' rest rest' shaped ended ended' same
  cases t' with
  | literal value' =>
      rw [shown, toList_shown_call] at same
      exact absurd same.symm (quoted_append_ne_cons (by decide) (by decide))
  | var name' indices =>
      rw [toList_shown_call, toList_shown_var] at same
      cases same
  | call name' arguments' =>
      cases shaped with
      | call isName' shaped =>
          simp only [toList_shown_call, List.cons_append, List.append_assoc,
            List.nil_append, List.append_cancel_left_eq, List.cons.injEq,
            true_and] at same
          rcases (word_of_isName isName).append_inj (word_of_isName isName')
            (ended_arguments arguments rest).cut
            (ended_arguments arguments' rest').cut same with
            ⟨sameName, sameArguments⟩
          rcases arguments_append_inj unambiguous shaped sameArguments with
            ⟨rfl, sameRest⟩
          rw [String.toList_inj.mp sameName]
          exact ⟨rfl, sameRest⟩
  | apply op condition left right =>
      simp only [toList_shown_call, shaped.toList_shown_apply, List.cons_append,
        List.append_assoc, List.nil_append, List.cons.injEq, true_and] at same
      exact absurd same (call_append_ne_symbol op (ended_arguments _ rest').cut)

theorem Shaped.unambiguous_apply
    {op : Op}
    {condition right : Option Expr}
    {left : Expr}
    (shaped : Shaped IsName isValue' (apply op condition left right))
    (unambiguous :
      ∀ operand ∈ operands condition left right, Unambiguous isValue operand) :
    Unambiguous isValue (apply op condition left right) := by
  intro t' rest rest' shaped' ended ended' same
  cases t' with
  | literal value' =>
      rw [shown, shaped.toList_shown_apply] at same
      exact absurd same.symm (quoted_append_ne_cons (by decide) (by decide))
  | var name' indices =>
      rw [shaped.toList_shown_apply, toList_shown_var] at same
      cases same
  | call name' arguments =>
      simp only [toList_shown_call, shaped.toList_shown_apply, List.cons_append,
        List.append_assoc, List.nil_append, List.cons.injEq, true_and] at same
      exact absurd same.symm
        (call_append_ne_symbol op (ended_arguments _ rest).cut)
  | apply op' condition' left' right' =>
      simp only [shaped.toList_shown_apply, shaped'.toList_shown_apply,
        List.cons_append, List.append_assoc, List.nil_append, List.cons.injEq,
        true_and] at same
      rcases (word_symbol op).append_inj (word_symbol op')
        (ended_arguments _ rest).cut
        (ended_arguments _ rest').cut same with ⟨sameSymbol, sameArguments⟩
      rcases arguments_append_inj unambiguous (fun _ => shaped'.of_mem_operands)
        sameArguments with
        ⟨sameOperands, sameRest⟩
      exact ⟨shaped.apply_eq shaped' (String.toList_inj.mp sameSymbol)
        sameOperands, sameRest⟩

/-- A tree of the right shape can be told from what follows it and from any other
one.  The induction is on the shape, so that every operand is known to end where
it should. -/
theorem Shaped.unambiguous
    {t : Expr}
    (distinct : ∀ value value', isValue' value → isValue value' →
      ∀ x y, value = .float x → value' = .float y →
        floatText x = floatText y → x = y)
    (shaped : Shaped IsName isValue' t) :
    Unambiguous isValue t := by
  induction shaped using Shaped.induction_on_operands with
  | ofLiteral value valid =>
      exact unambiguous_literal fun value' => distinct value value' valid
  | ofVariable name indices valid _ ih => exact unambiguous_var valid ih
  | ofCall name arguments valid _ ih => exact unambiguous_call valid ih
  | ofOperator op condition left right shaped ih =>
      exact shaped.unambiguous_apply ih

/-! ## Lines -/

theorem unbroken_listed
    {lead close : List Char}
    {trees : List Expr}
    (leads : Unbroken lead)
    (closes : Unbroken close)
    (unbroken : ∀ t ∈ trees, Unbroken t.shown.toList) :
    Unbroken (listed lead close trees) := by
  intro c isMember
  rcases List.mem_flatMap.mp isMember with ⟨t, isTree, inTree⟩
  exact leads.append ((unbroken t isTree).append closes) c inTree

/-- A shown tree is a single line. -/
theorem Shaped.unbroken
    {t : Expr}
    (shaped : Shaped IsName isValue t) :
    Unbroken t.shown.toList := by
  induction shaped using Shaped.induction_on_operands with
  | ofLiteral value _ =>
      rw [shown]
      exact unbroken_quoted value
  | ofVariable name indices valid _ ih =>
      rw [toList_shown_var]
      apply Unbroken.cons (by decide)
      exact (word_of_isName valid).unbroken.append
        (unbroken_listed (by decide) (by decide) ih)
  | ofCall name arguments valid _ ih =>
      have unbroken : Unbroken (listed [' '] [] arguments) :=
        unbroken_listed (by decide) (by decide) ih
      rw [toList_shown_call]
      apply Unbroken.cons (by decide)
      apply Unbroken.append (by decide)
      apply Unbroken.cons (by decide)
      exact (word_of_isName valid).unbroken.append (unbroken.append (by decide))
  | ofOperator op condition left right shaped ih =>
      have unbroken : Unbroken (listed [' '] [] (operands condition left right)) :=
        unbroken_listed (by decide) (by decide) ih
      rw [shaped.toList_shown_apply]
      apply Unbroken.cons (by decide)
      exact (word_symbol op).unbroken.append (unbroken.append (by decide))

end Expr

end Formula
