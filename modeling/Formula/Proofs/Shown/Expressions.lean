import Formula.Proofs.CommandLine.Lines
import Formula.Proofs.Parse.Trees
import Formula.Proofs.RoundTrip.Trees
import Formula.Proofs.Shown.Trees

/-!
# Shown expressions

Expressions that were read have trees of the right shape, so what is shown of a
list of trees can only be shown of this list.  It is a single line; where the
trees are printed one by one, there are as many lines as trees.
-/

namespace Formula

open Text Number Shown

namespace Expression

/-- The expression was read from a text, from a stream of characters, or from any
other source that is like a reader as long as it goes back to its latest mark
only. -/
inductive Parsed (expression : Expression) : Prop where
  | ofText {text : String} {multiple : Bool} :
      parse text multiple = .ok expression → Parsed expression
  | ofStream {chars : List Char} {multiple : Bool} :
      parseSource (CharStream.ofList chars) multiple = .ok expression →
        Parsed expression
  | ofSource {σ : Type} [CharSource σ] {alike : σ → Reader → Prop} {source : σ}
      {reader : Reader} {multiple : Bool} :
      Rewinding alike → alike source reader →
        parseSource source multiple = .ok expression →
          Parsed expression

/-- The values of the literals of the members. -/
def literals (expression : Expression) : List Value :=
  Expr.literalsOfList expression.exprs

variable {expression expression' : Expression}

/-- Trees that are read from a source that is like a reader have the right
shape. -/
theorem wellShaped_of_parseSource {σ : Type} [CharSource σ]
    {alike : σ → Reader → Prop}
    (rewinding : Rewinding alike)
    {source : σ}
    {reader : Reader}
    (related : alike source reader)
    {multiple : Bool}
    (parsed : parseSource source multiple = .ok expression) :
    ∀ t ∈ expression.exprs, t.WellShaped := by
  have same :=
    (((Tokenizer.feedSimulation rewinding).expressions_tracks multiple _ _).agree
      (Tokenizer.alike_ofSource related) id).fst_eq
  have unread : (Tokenizer.ofSource reader).token.Good :=
    Token.good_of_error_or_unread (.inr rfl)
  have keeps := Tokenizer.good_invariant.expressions_keeps multiple unread
  rw [parseSource, same] at parsed
  cases read : (Parse.expressions multiple (Tokenizer.ofSource reader)).1 with
  | error e =>
      rw [read] at parsed
      cases parsed
  | ok trees =>
      rw [read] at parsed
      cases parsed
      exact keeps.2 trees read

theorem Parsed.wellShaped (parsed : expression.Parsed) :
    ∀ t ∈ expression.exprs, t.WellShaped := by
  cases parsed with
  | ofText parsed =>
      exact wellShaped_of_parseSource (Cursor.rewinding _)
        (Cursor.models_ofString _) parsed
  | ofStream parsed =>
      exact wellShaped_of_parseSource CharStream.rewinding
        (CharStream.models_ofList _) parsed
  | ofSource rewinding related parsed =>
      exact wellShaped_of_parseSource rewinding related parsed

theorem Parsed.shaped_literals (parsed : expression.Parsed) :
    ∀ t ∈ expression.exprs,
      t.Shaped IsName fun value => value.NotNaN ∧ value ∈ expression.literals := by
  intro t isMember
  apply (parsed.wellShaped t isMember).imp
  intro value inTree isNumber
  exact ⟨isNumber, Expr.literals_subset_of_mem isMember inTree⟩

/-! ## Lists of trees -/

theorem toList_shown_cons
    (t : Expr)
    (trees : List Expr) :
    (shown ⟨t :: trees⟩).toList =
      t.shown.toList ++ Expr.listed [';', ' '] [] trees := by
  induction trees generalizing t with
  | nil => simp [shown, Expr.listed]
  | cons next trees ih =>
      have shorter := ih next
      rw [shown, List.map_cons, String.toList_intercalate] at shorter ⊢
      simp only [List.map_cons, List.intercalate_cons_cons] at shorter ⊢
      rw [shorter, Expr.listed_cons]
      simp

theorem ended_further
    (trees : List Expr) :
    Expr.Ended (Expr.listed [';', ' '] [] trees) := by
  cases trees with
  | nil => exact nofun
  | cons t trees => exact Expr.ended_cons (by decide) _

variable {isValue isValue' : Value → Prop}

theorem listed_inj
    {trees trees' : List Expr}
    (unambiguous : ∀ t ∈ trees, t.Unambiguous isValue)
    (shaped : ∀ t ∈ trees', t.Shaped IsName isValue)
    (same : Expr.listed [';', ' '] [] trees = Expr.listed [';', ' '] [] trees') :
    trees = trees' := by
  have ended (trees : List Expr) :
      Expr.Ended ([] ++ (Expr.listed [';', ' '] [] trees ++ [])) := by
    rw [List.nil_append, List.append_nil]
    exact ended_further trees
  exact (Expr.listed_append_inj rfl ended ended nofun nofun unambiguous shaped
    (congrArg (· ++ []) same)).1

/-- Lists of trees of the right shape are equal if the same is shown of them. -/
theorem eq_of_shown_eq
    {trees trees' : List Expr}
    (distinct : ∀ value value', isValue value → isValue' value' →
      ∀ x y, value = .float x → value' = .float y →
        floatText x = floatText y → x = y)
    (shaped : ∀ t ∈ trees, t.Shaped IsName isValue)
    (shaped' : ∀ t ∈ trees', t.Shaped IsName isValue')
    (same : shown ⟨trees⟩ = shown ⟨trees'⟩) :
    trees = trees' := by
  have nonempty {isValue : Value → Prop} {t : Expr} {trees : List Expr}
      (shaped : ∀ part ∈ t :: trees, part.Shaped IsName isValue) :
      (shown ⟨t :: trees⟩).toList ≠ [] := by
    rw [toList_shown_cons]
    exact List.append_ne_nil_of_left_ne_nil
      (shaped t List.mem_cons_self).shown_ne_nil _
  have sameText := congrArg String.toList same
  cases trees with
  | nil =>
      cases trees' with
      | nil => rfl
      | cons t' trees' => exact absurd sameText.symm (nonempty shaped')
  | cons t trees =>
      cases trees' with
      | nil => exact absurd sameText (nonempty shaped)
      | cons t' trees' =>
          have unambiguous : ∀ part ∈ t :: trees, part.Unambiguous isValue' :=
            fun part isPart => (shaped part isPart).unambiguous distinct
          rw [toList_shown_cons, toList_shown_cons] at sameText
          rcases unambiguous t List.mem_cons_self (shaped' t' List.mem_cons_self)
            (ended_further trees) (ended_further trees') sameText with
              ⟨rfl, sameFurther⟩
          exact congrArg (t :: ·)
            (listed_inj (List.forall_mem_cons.mp unambiguous).2
              (List.forall_mem_cons.mp shaped').2 sameFurther)

/-- A shown list of trees is a single line as well. -/
theorem unbroken_shown
    {trees : List Expr}
    (shaped : ∀ t ∈ trees, t.Shaped IsName isValue) :
    Unbroken (shown ⟨trees⟩).toList := by
  cases trees with
  | nil => exact nofun
  | cons t trees =>
      rw [toList_shown_cons]
      apply (shaped t List.mem_cons_self).unbroken.append
      apply Expr.unbroken_listed (by decide) (by decide)
      exact fun part isPart =>
        (shaped part (List.mem_cons_of_mem t isPart)).unbroken

end Expression

/-! ## Equality -/

/-- A number is equal to itself. -/
theorem Number.beq_self
    {x : Float}
    (isNumber : x.isNaN = false) :
    (x == x) = true := by
  have isNumber' : x.toModel.unpack.isNaN = false := isNumber
  show x.toModel.unpack.beq x.toModel.unpack = true
  cases unpacked : x.toModel.unpack with
  | notANumber =>
      rw [unpacked] at isNumber'
      cases isNumber'
  | infinity sign => cases sign <;> rfl
  | zero sign => cases sign <;> rfl
  | finite sign mantissa exponent =>
      have alike :
          (compare exponent exponent).then (compare mantissa mantissa) = .eq := by
        simp
      cases sign with
      | positive => exact beq_iff_eq.mpr (congrArg some alike)
      | negative => exact beq_iff_eq.mpr (congrArg (some ∘ Ordering.swap) alike)

theorem Value.same_self
    {value : Value}
    (isNumber : value.NotNaN) :
    value.same value = true := by
  cases value with
  | float x => exact Number.beq_self (isNumber x rfl)
  | absent => rfl
  | null => rfl
  | int n => exact decide_eq_true rfl
  | str s => exact decide_eq_true rfl
  | bool b => exact decide_eq_true rfl

namespace Expr

theorem sameLists_self
    {trees : List Expr}
    (same : ∀ t ∈ trees, t.same t = true) :
    sameLists trees trees = true := by
  induction trees with
  | nil => rw [sameLists]
  | cons t trees ih =>
      have parts := List.forall_mem_cons.mp same
      rw [sameLists, parts.1, ih parts.2, Bool.and_self]

theorem sameOptions_self
    {tree : Option Expr}
    (same : ∀ t, tree = some t → t.same t = true) :
    sameOptions tree tree = true := by
  cases tree with
  | none => rw [sameOptions]
  | some t => rw [sameOptions, same t rfl]

/-- A tree without NaNs is equal to itself. -/
theorem Shaped.same_self
    {isName : String → Prop}
    {t : Expr}
    (shaped : t.Shaped isName Value.NotNaN) :
    t.same t = true := by
  induction shaped using Shaped.induction_on_operands with
  | ofLiteral value valid =>
      rw [same]
      exact value.same_self valid
  | ofVariable name indices _ _ ih =>
      rw [same, sameLists_self ih, decide_eq_true rfl, Bool.and_self]
  | ofCall name arguments _ _ ih =>
      rw [same, sameLists_self ih, decide_eq_true rfl, Bool.and_self]
  | ofOperator op condition left right _ ih =>
      have sameCondition := sameOptions_self fun t isCondition =>
        ih t (mem_operands_iff.mpr (.inl isCondition))
      have sameRight := sameOptions_self fun t isRight =>
        ih t (mem_operands_iff.mpr (.inr (.inr isRight)))
      rw [same, sameCondition, ih left left_mem_operands, sameRight,
        decide_eq_true rfl]
      rfl

end Expr

/-! ## Printed lines -/

namespace CommandLine

/-- Texts that are printed line by line are the lines of what is printed. -/
theorem lines_join
    {texts : List String}
    (unbroken : ∀ text ∈ texts, Unbroken text.toList) :
    lines (String.join (texts.map (· ++ "\n"))).toList =
      texts.map String.toList := by
  induction texts with
  | nil => rfl
  | cons text texts ih =>
      have parts := List.forall_mem_cons.mp unbroken
      have noFeed : '\n' ∉ text.toList :=
        fun isMember => (parts.1 _ isMember).1 rfl
      have front : (String.join ((text :: texts).map (· ++ "\n"))).toList =
          text.toList ++ '\n' :: (String.join (texts.map (· ++ "\n"))).toList := by
        simp
      rw [front, lines_append noFeed, ih parts.2, List.map_cons]

/-- Trees that are printed have a line each. -/
theorem lines_shown
    {trees : List Expr}
    (wellShaped : ∀ t ∈ trees, t.WellShaped) :
    lines (String.join (trees.map (·.shown ++ "\n"))).toList =
      trees.map (·.shown.toList) := by
  have unbroken : ∀ text ∈ trees.map Expr.shown, Unbroken text.toList := by
    rw [List.forall_mem_map]
    exact fun t isMember => (wellShaped t isMember).unbroken
  have separate := lines_join unbroken
  rw [List.map_map, List.map_map] at separate
  exact separate

theorem Options.answer_of_trees
    {options : Options}
    {line : String}
    {expression : Expression}
    (trees : options.trees = true)
    (parsed : Expression.parse line options.multiple = .ok expression) :
    options.answer line =
      .ok (String.join (expression.exprs.map (·.shown ++ "\n"))) := by
  rw [answer, parsed, trees]
  rfl

end CommandLine

namespace Expression

variable {expression expression' : Expression}

/--
Expressions that were read are equal if the same is shown of them, as long as
different floats among their literals have different texts.  What is shown is a
single line, and so is each of the trees where these are printed.
-/
theorem shown_injective
    (parsed : expression.Parsed)
    (parsed' : expression'.Parsed)
    (distinct :
      ∀ x y, .float x ∈ expression.literals → .float y ∈ expression'.literals →
        x.isNaN = false → y.isNaN = false → floatText x = floatText y → x = y) :
    (expression.shown = expression'.shown →
        expression = expression' ∧ expression.same expression' = true) ∧
      ('\n' ∉ expression.shown.toList ∧ '\r' ∉ expression.shown.toList) ∧
      ∀ (options : CommandLine.Options) (line : String), options.trees = true →
        parse line options.multiple = .ok expression →
          ∃ output, options.answer line = .ok output ∧
            CommandLine.lines output.toList =
              expression.exprs.map (·.shown.toList) := by
  constructor
  · intro same
    have sameTrees : expression.exprs = expression'.exprs := by
      apply eq_of_shown_eq _ parsed.shaped_literals parsed'.shaped_literals same
      rintro _ _ ⟨isNumber, isLiteral⟩ ⟨isNumber', isLiteral'⟩ x y rfl rfl
      exact distinct x y isLiteral isLiteral' (isNumber x rfl) (isNumber' y rfl)
    constructor
    · exact congrArg Expression.mk sameTrees
    · rw [Expression.same, ← sameTrees]
      exact Expr.sameLists_self fun t isMember =>
        (parsed.wellShaped t isMember).same_self
  constructor
  · have unbroken := unbroken_shown parsed.wellShaped
    exact ⟨fun isMember => (unbroken _ isMember).1 rfl,
      fun isMember => (unbroken _ isMember).2 rfl⟩
  · intro options line trees parsedLine
    exact ⟨_, CommandLine.Options.answer_of_trees trees parsedLine,
      CommandLine.lines_shown parsed.wellShaped⟩

/-- The minus sign is told by what it stands in front of. -/
theorem shown_injective_of_signs :
    ∃ left right : Expression,
      left =
          ⟨[.binary .sub (.literal (.float 1.5))
              (.unary .minus (.literal (.float 0.5)))]⟩ ∧
      right =
          ⟨[.unary .minus
              (.binary .sub (.literal (.float 1.5)) (.literal (.float 0.5)))]⟩ ∧
      parse "1.5 - - 0.5" true = .ok left ∧
      parse "- (1.5 - 0.5)" true = .ok right ∧
      (∀ x y, .float x ∈ left.literals → .float y ∈ right.literals →
        x.isNaN = false → y.isNaN = false → floatText x = floatText y → x = y) ∧
      (left.shown = right.shown → left = right ∧ left.same right = true) ∧
      ('\n' ∉ left.shown.toList ∧ '\r' ∉ left.shown.toList) ∧
      ∀ (options : CommandLine.Options) (line : String), options.trees = true →
        parse line options.multiple = .ok left →
          ∃ output, options.answer line = .ok output ∧
            CommandLine.lines output.toList = left.exprs.map (·.shown.toList) := by
  have half : Expr.WellFormed (.literal (.float 0.5)) :=
    .literal (Value.readable_float (by decide +kernel) (by decide +kernel))
  have more : Expr.WellFormed (.literal (.float 1.5)) :=
    .literal (Value.readable_float (by decide +kernel) (by decide +kernel))
  have wellFormed : Expr.WellFormed
      (.binary .sub (.literal (.float 1.5))
        (.unary .minus (.literal (.float 0.5)))) :=
    .binary rfl more (.sign .minus half)
  have wellFormed' : Expr.WellFormed
      (.unary .minus
        (.binary .sub (.literal (.float 1.5)) (.literal (.float 0.5)))) :=
    .sign .minus (.binary rfl more half)
  have written : Expr.written
      (.binary .sub (.literal (.float 1.5))
        (.unary .minus (.literal (.float 0.5)))) =
          "1.5 - - 0.5" := by
    decide +kernel
  have written' : Expr.written
      (.unary .minus
        (.binary .sub (.literal (.float 1.5)) (.literal (.float 0.5)))) =
          "- (1.5 - 0.5)" := by
    decide +kernel
  have parsed := written ▸ parse_written wellFormed
  have parsed' := written' ▸ parse_written wellFormed'
  have distinct : ∀ x y : Float, .float x ∈ [Value.float 1.5, .float 0.5] →
      .float y ∈ [Value.float 1.5, .float 0.5] → x.isNaN = false →
        y.isNaN = false →
          floatText x = floatText y → x = y := by
    intro x y inLeft inRight _ _ same
    simp only [List.mem_cons, Value.float.injEq, List.not_mem_nil,
      or_false] at inLeft inRight
    rcases inLeft with rfl | rfl
    · rcases inRight with rfl | rfl
      · rfl
      · exact absurd same (by decide +kernel)
    · rcases inRight with rfl | rfl
      · exact absurd same (by decide +kernel)
      · rfl
  exact ⟨_, _, rfl, rfl, parsed, parsed', distinct,
    shown_injective (.ofText parsed) (.ofText parsed') distinct⟩

end Expression

end Formula
