import Formula.Proofs.Expr.Shapes

/-!
# Operands and literals

The condition, the left and the right operand of an operator are a list,
whose length the form of the operator gives.  An induction over such lists
does not have to tell the operators apart.  What is said of the values in a
tree need only be said of its literals.
-/

namespace Formula

/-- How many operands the operators of a form take. -/
def Op.Form.operands : Op.Form → Nat
  | conditional => 3
  | binary => 2
  | unary | defined => 1

namespace Expr

/-- The operands of an operator in the order in which they are shown. -/
def operands
    (condition : Option Expr)
    (left : Expr)
    (right : Option Expr) :
    List Expr :=
  condition.toList ++ left :: right.toList

theorem mem_operands_iff
    {condition right : Option Expr}
    {left operand : Expr} :
    operand ∈ operands condition left right ↔
      condition = some operand ∨ operand = left ∨ right = some operand := by
  simp [operands]

theorem condition_mem_operands
    {condition left : Expr}
    {right : Option Expr} :
    condition ∈ operands (some condition) left right :=
  mem_operands_iff.mpr (.inl rfl)

theorem left_mem_operands
    {condition right : Option Expr}
    {left : Expr} :
    left ∈ operands condition left right :=
  mem_operands_iff.mpr (.inr (.inl rfl))

theorem right_mem_operands
    {condition : Option Expr}
    {left right : Expr} :
    right ∈ operands condition left (some right) :=
  mem_operands_iff.mpr (.inr (.inr rfl))

variable {isName : String → Prop} {isValue isValue' : Value → Prop}

/-- A tree of the right shape has as many operands as its operator takes. -/
theorem Shaped.length_operands
    {op : Op}
    {condition right : Option Expr}
    {left : Expr}
    (shaped : Shaped isName isValue (apply op condition left right)) :
    (operands condition left right).length = op.form.operands := by
  cases shaped with
  | conditional => rfl
  | defined => rfl
  | unary isUnary =>
      rw [isUnary]
      rfl
  | binary isBinary =>
      rw [isBinary]
      rfl

theorem Shaped.of_mem_operands
    {op : Op}
    {condition right : Option Expr}
    {left operand : Expr}
    (shaped : Shaped isName isValue (apply op condition left right))
    (isOperand : operand ∈ operands condition left right) :
    Shaped isName isValue operand := by
  cases shaped with
  | conditional condition yes no =>
      rcases mem_operands_iff.mp isOperand with ⟨⟨⟩⟩ | rfl | ⟨⟨⟩⟩
      · exact condition
      · exact yes
      · exact no
  | defined isName indices =>
      obtain rfl := List.mem_singleton.mp isOperand
      exact .variable isName indices
  | unary _ operand =>
      obtain rfl := List.mem_singleton.mp isOperand
      exact operand
  | binary _ left right =>
      rcases mem_operands_iff.mp isOperand with ⟨⟨⟩⟩ | rfl | ⟨⟨⟩⟩
      · exact left
      · exact right

/-- An induction on the shape of a tree that takes the operands of all operators
alike. -/
@[elab_as_elim]
theorem Shaped.induction_on_operands
    {motive : (t : Expr) → Shaped isName isValue t → Prop}
    {t : Expr}
    (shaped : Shaped isName isValue t)
    (ofLiteral :
      ∀ value (valid : isValue value), motive (.literal value) (.literal valid))
    (ofVariable : ∀ name indices (valid : isName name)
      (shaped : ∀ index ∈ indices, Shaped isName isValue index),
        (∀ index isIndex, motive index (shaped index isIndex)) →
          motive (.var name indices) (.variable valid shaped))
    (ofCall : ∀ name arguments (valid : isName name)
      (shaped : ∀ argument ∈ arguments, Shaped isName isValue argument),
        (∀ argument isArgument, motive argument (shaped argument isArgument)) →
          motive (.call name arguments) (.call valid shaped))
    (ofOperator : ∀ op condition left right
      (shaped : Shaped isName isValue (.apply op condition left right)),
        (∀ operand (isOperand : operand ∈ operands condition left right),
          motive operand (shaped.of_mem_operands isOperand)) →
            motive (.apply op condition left right) shaped) :
    motive t shaped := by
  induction shaped with
  | literal valid => exact ofLiteral _ valid
  | «variable» valid shaped ih => exact ofVariable _ _ valid shaped ih
  | call valid shaped ih => exact ofCall _ _ valid shaped ih
  | conditional condition yes no ihCondition ihYes ihNo =>
      apply ofOperator _ _ _ _ (.conditional condition yes no)
      intro operand isOperand
      rcases mem_operands_iff.mp isOperand with ⟨⟨⟩⟩ | rfl | ⟨⟨⟩⟩
      · exact ihCondition
      · exact ihYes
      · exact ihNo
  | defined valid shaped ih =>
      apply ofOperator _ _ _ _ (.defined valid shaped)
      intro operand isOperand
      obtain rfl := List.mem_singleton.mp isOperand
      exact ofVariable _ _ valid shaped ih
  | unary isUnary operand ih =>
      apply ofOperator _ _ _ _ (.unary isUnary operand)
      intro operand isOperand
      obtain rfl := List.mem_singleton.mp isOperand
      exact ih
  | binary isBinary left right ihLeft ihRight =>
      apply ofOperator _ _ _ _ (.binary isBinary left right)
      intro operand isOperand
      rcases mem_operands_iff.mp isOperand with ⟨⟨⟩⟩ | rfl | ⟨⟨⟩⟩
      · exact ihLeft
      · exact ihRight

/-- Operators stay as they are if their operands do. -/
theorem Shaped.of_operands
    {op : Op}
    {condition right : Option Expr}
    {left : Expr}
    (shaped : Shaped isName isValue (apply op condition left right))
    (ofOperands :
      ∀ operand ∈ operands condition left right, Shaped isName isValue' operand) :
    Shaped isName isValue' (apply op condition left right) := by
  cases shaped with
  | conditional =>
      apply Shaped.conditional
      · exact ofOperands _ condition_mem_operands
      · exact ofOperands _ left_mem_operands
      · exact ofOperands _ right_mem_operands
  | defined isName =>
      cases ofOperands _ left_mem_operands with
      | «variable» _ indices => exact .defined isName indices
  | unary isUnary => exact .unary isUnary (ofOperands _ left_mem_operands)
  | binary isBinary =>
      apply Shaped.binary isBinary
      · exact ofOperands _ left_mem_operands
      · exact ofOperands _ right_mem_operands

/-! ## Literals -/

mutual

/-- The values of the literals in a tree, from left to right. -/
def literals : Expr → List Value
  | literal value => [value]
  | var _ indices => literalsOfList indices
  | call _ arguments => literalsOfList arguments
  | apply _ condition left right =>
    literalsOfOption condition ++ left.literals ++ literalsOfOption right

/-- The values of the literals in a list of trees. -/
def literalsOfList : List Expr → List Value
  | [] => []
  | t :: trees => t.literals ++ literalsOfList trees

/-- The values of the literals in a tree that may be missing. -/
def literalsOfOption : Option Expr → List Value
  | none => []
  | some t => t.literals

end

theorem literals_subset_of_mem
    {t : Expr}
    {trees : List Expr}
    (isMember : t ∈ trees) :
    t.literals ⊆ literalsOfList trees := by
  induction trees with
  | nil => cases isMember
  | cons first trees ih =>
      rw [literalsOfList]
      rcases List.mem_cons.mp isMember with rfl | later
      · exact List.subset_append_left _ _
      · exact List.subset_append_of_subset_right _ (ih later)

theorem literals_subset_of_operand
    (op : Op)
    {condition right : Option Expr}
    {left operand : Expr}
    (isOperand : operand ∈ operands condition left right) :
    operand.literals ⊆ (apply op condition left right).literals := by
  rw [literals]
  rcases mem_operands_iff.mp isOperand with rfl | rfl | rfl
  · rw [literalsOfOption, List.append_assoc]
    exact List.subset_append_left _ _
  · exact List.subset_append_of_subset_left _ (List.subset_append_right _ _)
  · rw [literalsOfOption]
    exact List.subset_append_right _ _

/-- The values of a tree may be held to what is true of its literals. -/
theorem Shaped.imp
    {t : Expr}
    (weaken : ∀ value ∈ t.literals, isValue value → isValue' value)
    (shaped : Shaped isName isValue t) :
    Shaped isName isValue' t := by
  induction shaped using Shaped.induction_on_operands with
  | ofLiteral value valid =>
      exact .literal (weaken value (List.mem_singleton_self value) valid)
  | ofVariable name indices valid _ ih =>
      apply Shaped.variable valid
      intro index isIndex
      exact ih index isIndex fun value inIndex =>
        weaken value (literals_subset_of_mem isIndex inIndex)
  | ofCall name arguments valid _ ih =>
      apply Shaped.call valid
      intro argument isArgument
      exact ih argument isArgument fun value inArgument =>
        weaken value (literals_subset_of_mem isArgument inArgument)
  | ofOperator op condition left right shaped ih =>
      apply shaped.of_operands
      intro operand isOperand
      exact ih operand isOperand fun value inOperand =>
        weaken value (literals_subset_of_operand op isOperand inOperand)

end Expr

end Formula
