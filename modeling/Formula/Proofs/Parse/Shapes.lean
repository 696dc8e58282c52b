import Formula.Proofs.Expr.Shapes
import Formula.Proofs.Parse.Equations

/-!
# What a parser makes of good tokens

If the tokens of a feed carry good names and values, then a parser builds trees
of the right shape from them, with these names and values.  What is said of the
feed holds again where the parser leaves it, whether it succeeds or not.
-/

namespace Formula.Parse

open TokenFeed
open Result (andThen)

/-- Something that reading and putting back keep, and that makes the current token
good. -/
structure FeedInvariant {τ : Type} [TokenFeed τ]
    (kept : τ → Prop)
    (isName : String → Prop)
    (isValue : Value → Prop) :
    Prop where
  advance : ∀ mode {feed}, kept feed → kept (advance mode feed)
  unget : ∀ {feed}, kept feed → kept (unget feed)
  name : ∀ {feed}, kept feed → ∀ name, (token feed).name? = some name → isName name
  value : ∀ {feed}, kept feed →
    ∀ value, constant? (token feed) = some value → isValue value

section

variable {τ : Type} {α β : Type}

/-- A step leaves a kept feed, and its yield, if it has one, is good. -/
def Keeps (kept : τ → Prop) (good : α → Prop) (result : Result τ α) : Prop :=
  kept result.2 ∧ ∀ value, result.1 = .ok value → good value

variable {kept : τ → Prop} {good : α → Prop} {good' : β → Prop}

theorem Keeps.ok
    {rest : τ}
    {value : α}
    (keeps : kept rest)
    (isGood : good value) :
    Keeps kept good (.ok value, rest) := by
  refine ⟨keeps, fun value' same => ?_⟩
  obtain rfl := Except.ok.inj same
  exact isGood

theorem Keeps.error
    {rest : τ}
    {e : Error}
    (keeps : kept rest) :
    Keeps kept good (.error e, rest) :=
  ⟨keeps, nofun⟩

theorem Keeps.andThen
    {result : Result τ α}
    {next : α → τ → Result τ β}
    (first : Keeps kept good result)
    (second : ∀ value rest, result = (.ok value, rest) → kept rest → good value →
      Keeps kept good' (next value rest)) :
    Keeps kept good' (andThen result next) := by
  rcases result with ⟨e | value, rest⟩
  · exact .error first.1
  · exact second value rest rfl first.1 (first.2 value rfl)

end

/-- All operators on a level stand between two operands. -/
def BinaryLevel (level : Level) : Prop :=
  ∀ entry ∈ level, entry.2.form = .binary

theorem binaryLevel_of_mem_ladder : ∀ level ∈ ladder, BinaryLevel level := by
  unfold BinaryLevel
  decide

theorem BinaryLevel.form_eq
    {level : Level}
    {kind : TokenKind}
    {op : Op}
    (binary : BinaryLevel level)
    (found : level.op? kind = some op) :
    op.form = .binary := by
  rw [Level.op?, if_neg (Level.ne_endOfInput found)] at found
  rcases List.lookup_eq_some_iff.mp found with ⟨before, behind, rfl, _⟩
  exact binary (kind, op) (List.mem_append_right before List.mem_cons_self)

theorem form_of_negation?
    {kind : TokenKind}
    {op : Op}
    (found : negation? kind = some op) :
    op.form = .unary := by
  rw [negation?.eq_def] at found
  split at found <;> cases found <;> rfl

theorem form_of_prefixOp?
    {kind : TokenKind}
    {op : Op}
    (found : prefixOp? kind = some op) :
    op.form = .unary := by
  rw [prefixOp?.eq_def] at found
  split at found <;> cases found <;> rfl

/-- A variable of the right shape. -/
def IsVariable
    (isName : String → Prop)
    (isValue : Value → Prop)
    (t : Expr) : Prop :=
  ∃ name indices, t = .var name indices ∧ isName name ∧
    ∀ index ∈ indices, index.Shaped isName isValue

namespace FeedInvariant

variable {τ : Type} [TokenFeed τ] {β : Type}
variable {kept : τ → Prop} {isName : String → Prop} {isValue : Value → Prop}

/-- Either a good token is read, or an error ends the step. -/
theorem andThen_reading
    (invariant : FeedInvariant kept isName isValue)
    {good : β → Prop}
    {mode : Mode}
    {feed : τ}
    {next : Token → τ → Result τ β}
    (keeps : kept feed)
    (more : ∀ token rest,
      reading mode feed = (.ok token, rest) → kept rest →
        (∀ name, token.name? = some name → isName name) →
          (∀ value, constant? token = some value → isValue value) →
            Keeps kept good (next token rest)) :
    Keeps kept good (andThen (reading mode feed) next) := by
  have keeps' := invariant.advance mode keeps
  by_cases malformed : (token (TokenFeed.advance mode feed)).kind = .error
  · rw [reading_of_malformed malformed, Result.andThen_error]
    exact .error keeps'
  · have read := reading_of_wellFormed malformed
    rw [read]
    exact more _ _ read keeps' (invariant.name keeps') (invariant.value keeps')

theorem expecting_keeps
    (invariant : FeedInvariant kept isName isValue)
    (kind : TokenKind)
    (expected : Expectation)
    {feed : τ}
    (keeps : kept feed) :
    Keeps kept (fun _ => True) (expecting kind expected feed) := by
  refine invariant.andThen_reading keeps fun token rest _ keeps _ _ => ?_
  split
  · exact .ok keeps trivial
  · exact .error keeps

/-!
One theorem for each function of the parser.  The recursion is their own: the
feed gets smaller, or the form of expression gets tighter.
-/

mutual

theorem conditional_keeps
    (invariant : FeedInvariant kept isName isValue)
    (feed : τ)
    (keeps : kept feed) :
    Keeps kept (Expr.Shaped isName isValue) (conditional feed).plain := by
  rw [plain_conditional]
  refine
    (invariant.levels_keeps ladder binaryLevel_of_mem_ladder feed keeps).andThen
      fun condition feed₁ done keeps shaped => ?_
  have le := size_le_of_plain done
  refine invariant.andThen_reading keeps fun token feed₂ read keeps _ _ => ?_
  split
  case isFalse => exact .ok (invariant.unget keeps) shaped
  case isTrue isQuestion =>
    have shorter : size feed₂ < size feed₁ :=
      size_lt_of_reading read (by simp [isQuestion])
    refine (invariant.conditional_keeps feed₂ keeps).andThen
      fun yes feed₃ done keeps shapedYes => ?_
    have le' := size_le_of_plain done
    refine (invariant.expecting_keeps .colon .colon keeps).andThen
      fun _ feed₄ done keeps _ => ?_
    have le'' := size_le_of_expecting done
    refine (invariant.conditional_keeps feed₄ keeps).andThen
      fun no feed₅ _ keeps shapedNo => ?_
    exact .ok keeps (.conditional shaped shapedYes shapedNo)
termination_by (size feed, 2 * ladder.length + 7)
decreasing_by all_goals (simp only [Prod.lex_def, true_and]; omega)

theorem levels_keeps
    (invariant : FeedInvariant kept isName isValue)
    (ls : List Level)
    (binary : ∀ level ∈ ls, BinaryLevel level)
    (feed : τ)
    (keeps : kept feed) :
    Keeps kept (Expr.Shaped isName isValue) (levels ls feed).plain := by
  match ls with
  | [] =>
      rw [plain_levels_nil]
      exact invariant.negation_keeps feed keeps
  | level :: tighter =>
      rw [plain_levels_cons]
      rw [List.forall_mem_cons] at binary
      refine (invariant.levels_keeps tighter binary.2 feed keeps).andThen
        fun left feed₁ done keeps shaped => ?_
      have le := size_le_of_plain done
      exact invariant.chain_keeps level tighter binary.1 binary.2 left
        shaped feed₁ keeps
termination_by (size feed, 2 * ls.length + 5)
decreasing_by
  all_goals
    simp only [Prod.lex_def, List.length_cons, List.length_nil, true_and]
    omega

theorem chain_keeps
    (invariant : FeedInvariant kept isName isValue)
    (level : Level)
    (tighter : List Level)
    (binary : BinaryLevel level)
    (binaryTighter : ∀ level ∈ tighter, BinaryLevel level)
    (left : Expr)
    (shaped : left.Shaped isName isValue)
    (feed : τ)
    (keeps : kept feed) :
    Keeps kept (Expr.Shaped isName isValue)
      (chain level tighter left feed).plain := by
  rw [plain_chain]
  refine invariant.andThen_reading keeps fun token feed₁ read keeps _ _ => ?_
  cases found : level.op? token.kind with
  | none => exact .ok (invariant.unget keeps) shaped
  | some op =>
      have shorter : size feed₁ < size feed :=
        size_lt_of_reading read (Level.ne_endOfInput found)
      refine (invariant.levels_keeps tighter binaryTighter feed₁ keeps).andThen
        fun right feed₂ done keeps shapedRight => ?_
      have le := size_le_of_plain done
      exact invariant.chain_keeps level tighter binary binaryTighter
        (Expr.binary op left right)
        (.binary (binary.form_eq found) shaped shapedRight) feed₂ keeps
termination_by (size feed, 2 * tighter.length + 6)
decreasing_by all_goals (simp only [Prod.lex_def]; omega)

theorem negation_keeps
    (invariant : FeedInvariant kept isName isValue)
    (feed : τ)
    (keeps : kept feed) :
    Keeps kept (Expr.Shaped isName isValue) (negation feed).plain := by
  rw [plain_negation]
  refine invariant.andThen_reading keeps fun token feed₁ read keeps _ _ => ?_
  cases found : negation? token.kind with
  | some op =>
      have shorter : size feed₁ < size feed :=
        size_lt_of_reading read (negation?_ne_endOfInput found)
      refine (invariant.negation_keeps feed₁ keeps).andThen
        fun operand feed₂ _ keeps shaped => ?_
      exact .ok keeps (.unary (form_of_negation? found) shaped)
  | none =>
      have le := size_unget_le_of_reading read
      exact invariant.prefixed_keeps _ (invariant.unget keeps)
termination_by (size feed, 4)
decreasing_by all_goals (simp only [Prod.lex_def]; omega)

theorem prefixed_keeps
    (invariant : FeedInvariant kept isName isValue)
    (feed : τ)
    (keeps : kept feed) :
    Keeps kept (Expr.Shaped isName isValue) (prefixed feed).plain := by
  rw [plain_prefixed]
  refine invariant.andThen_reading keeps fun token feed₁ read keeps _ _ => ?_
  cases found : prefixOp? token.kind with
  | some op =>
      have shorter : size feed₁ < size feed :=
        size_lt_of_reading read (prefixOp?_ne_endOfInput found)
      refine (invariant.prefixed_keeps feed₁ keeps).andThen
        fun operand feed₂ _ keeps shaped => ?_
      exact .ok keeps (.unary (form_of_prefixOp? found) shaped)
  | none =>
      dsimp only
      split
      case isTrue isDefined =>
        have shorter : size feed₁ < size feed :=
          size_lt_of_reading read (by simp [isDefined])
        refine (invariant.existing_keeps feed₁ keeps).andThen
          fun operand feed₂ _ keeps isVariable => ?_
        rcases isVariable with ⟨name, indices, rfl, isName, shaped⟩
        exact .ok keeps (.defined isName shaped)
      case isFalse =>
        have le := size_unget_le_of_reading read
        exact invariant.primary_keeps _ (invariant.unget keeps)
termination_by (size feed, 3)
decreasing_by all_goals (simp only [Prod.lex_def]; omega)

theorem existing_keeps
    (invariant : FeedInvariant kept isName isValue)
    (feed : τ)
    (keeps : kept feed) :
    Keeps kept (IsVariable isName isValue) (existing feed).plain := by
  rw [plain_existing]
  refine invariant.andThen_reading keeps
    fun token feed₁ read keeps goodName _ => ?_
  have le := size_le_of_reading read
  split
  case isTrue isOpen =>
    have shorter : size feed₁ < size feed :=
      size_lt_of_reading read (by simp [isOpen])
    refine (invariant.existing_keeps feed₁ keeps).andThen
      fun expr feed₂ _ keeps isVariable => ?_
    refine (invariant.expecting_keeps .closeParen .closeParen keeps).andThen
      fun _ feed₃ _ keeps _ => ?_
    exact .ok keeps isVariable
  case isFalse =>
    cases named : token.name? with
    | some name =>
        refine (invariant.indices_keeps feed₁ keeps).andThen
          fun indices feed₂ _ keeps shaped => ?_
        exact .ok keeps ⟨name, indices, rfl, goodName name named, shaped⟩
    | none => exact .error keeps
termination_by (size feed, 1)
decreasing_by all_goals (simp only [Prod.lex_def]; omega)

theorem primary_keeps
    (invariant : FeedInvariant kept isName isValue)
    (feed : τ)
    (keeps : kept feed) :
    Keeps kept (Expr.Shaped isName isValue) (primary feed).plain := by
  rw [plain_primary]
  refine invariant.andThen_reading keeps
    fun token feed₁ read keeps goodName goodValue => ?_
  have le := size_le_of_reading read
  cases isConstant : constant? token with
  | some value => exact .ok keeps (.literal (goodValue value isConstant))
  | none =>
      dsimp only
      split
      case isTrue isOpen =>
        have shorter : size feed₁ < size feed :=
          size_lt_of_reading read (by simp [isOpen])
        refine (invariant.conditional_keeps feed₁ keeps).andThen
          fun expr feed₂ _ keeps shaped => ?_
        refine (invariant.expecting_keeps .closeParen .closeParen keeps).andThen
          fun _ feed₃ _ keeps _ => ?_
        exact .ok keeps shaped
      case isFalse =>
        cases named : token.name? with
        | some name =>
            exact invariant.named_keeps name (goodName name named) feed₁ keeps
        | none => exact .error keeps
termination_by (size feed, 2)
decreasing_by all_goals (simp only [Prod.lex_def]; omega)

theorem named_keeps
    (invariant : FeedInvariant kept isName isValue)
    (name : String)
    (goodName : isName name)
    (feed : τ)
    (keeps : kept feed) :
    Keeps kept (Expr.Shaped isName isValue) (named name feed).plain := by
  rw [plain_named]
  refine invariant.andThen_reading keeps fun token feed₁ read keeps _ _ => ?_
  split
  case isTrue isOpen =>
    have shorter : size feed₁ < size feed :=
      size_lt_of_reading read (by simp [isOpen])
    refine invariant.andThen_reading keeps fun token feed₂ read keeps _ _ => ?_
    split
    case isTrue => exact .ok keeps (.call goodName (List.forall_mem_nil _))
    case isFalse =>
      have le := size_unget_le_of_reading read
      refine (invariant.arguments_keeps _ (invariant.unget keeps)).andThen
        fun arguments feed₃ _ keeps shaped => ?_
      exact .ok keeps (.call goodName shaped)
  case isFalse =>
    have le := size_unget_le_of_reading read
    refine (invariant.indices_keeps _ (invariant.unget keeps)).andThen
      fun indices feed₂ _ keeps shaped => ?_
    exact .ok keeps (.variable goodName shaped)
termination_by (size feed, 1)
decreasing_by all_goals (simp only [Prod.lex_def]; omega)

theorem arguments_keeps
    (invariant : FeedInvariant kept isName isValue)
    (feed : τ)
    (keeps : kept feed) :
    Keeps kept (fun ts => ∀ t ∈ ts, Expr.Shaped isName isValue t)
      (arguments feed).plain := by
  rw [plain_arguments]
  refine (invariant.conditional_keeps feed keeps).andThen
    fun argument feed₁ done keeps shaped => ?_
  have le := size_le_of_plain done
  refine invariant.andThen_reading keeps fun token feed₂ read keeps _ _ => ?_
  split
  case isTrue isComma =>
    have shorter : size feed₂ < size feed₁ :=
      size_lt_of_reading read (by simp [isComma])
    refine (invariant.arguments_keeps feed₂ keeps).andThen
      fun others feed₃ _ keeps shapedOthers => ?_
    exact .ok keeps (List.forall_mem_cons.mpr ⟨shaped, shapedOthers⟩)
  case isFalse =>
    split
    · exact .ok keeps (List.forall_mem_singleton.mpr shaped)
    · exact .error keeps
termination_by (size feed, 2 * ladder.length + 8)
decreasing_by all_goals (simp only [Prod.lex_def, true_and]; omega)

theorem indices_keeps
    (invariant : FeedInvariant kept isName isValue)
    (feed : τ)
    (keeps : kept feed) :
    Keeps kept (fun ts => ∀ t ∈ ts, Expr.Shaped isName isValue t)
      (indices feed).plain := by
  rw [plain_indices]
  refine invariant.andThen_reading keeps fun token feed₁ read keeps _ _ => ?_
  split
  case isFalse => exact .ok (invariant.unget keeps) (List.forall_mem_nil _)
  case isTrue isOpen =>
    have shorter : size feed₁ < size feed :=
      size_lt_of_reading read (by simp [isOpen])
    refine (invariant.conditional_keeps feed₁ keeps).andThen
      fun index feed₂ done keeps shaped => ?_
    have le := size_le_of_plain done
    refine (invariant.expecting_keeps .closeBracket .closeBracket keeps).andThen
      fun _ feed₃ done keeps _ => ?_
    have le' := size_le_of_expecting done
    refine (invariant.indices_keeps feed₃ keeps).andThen
      fun others feed₄ _ keeps shapedOthers => ?_
    exact .ok keeps (List.forall_mem_cons.mpr ⟨shaped, shapedOthers⟩)
termination_by (size feed, 0)
decreasing_by all_goals (simp only [Prod.lex_def]; omega)

end

theorem others_keeps
    (invariant : FeedInvariant kept isName isValue)
    (multiple : Bool)
    (feed : τ)
    (keeps : kept feed) :
    Keeps kept (fun ts => ∀ t ∈ ts, Expr.Shaped isName isValue t)
      (others multiple feed).plain := by
  rw [plain_others]
  refine invariant.andThen_reading keeps fun token feed₁ read keeps _ _ => ?_
  split
  case isTrue => exact .ok keeps (List.forall_mem_nil _)
  split
  case isFalse => exact .error keeps
  case isTrue isSemicolon =>
    have shorter : size feed₁ < size feed :=
      size_lt_of_reading read (by simp [isSemicolon.1])
    refine invariant.andThen_reading keeps fun token feed₂ read keeps _ _ => ?_
    split
    case isTrue => exact .ok keeps (List.forall_mem_nil _)
    case isFalse =>
      have le := size_unget_le_of_reading read
      refine (invariant.conditional_keeps _ (invariant.unget keeps)).andThen
        fun expr feed₃ done keeps shaped => ?_
      have le' := size_le_of_plain done
      refine (invariant.others_keeps multiple feed₃ keeps).andThen
        fun more feed₄ _ keeps shapedMore => ?_
      exact .ok keeps (List.forall_mem_cons.mpr ⟨shaped, shapedMore⟩)
termination_by size feed

/-! ## What can be parsed -/

theorem expression_keeps
    (invariant : FeedInvariant kept isName isValue)
    {feed : τ}
    (keeps : kept feed) :
    Keeps kept (Expr.Shaped isName isValue) (expression feed) :=
  invariant.conditional_keeps feed keeps

theorem wholeExpression_keeps
    (invariant : FeedInvariant kept isName isValue)
    {feed : τ}
    (keeps : kept feed) :
    Keeps kept (Expr.Shaped isName isValue) (wholeExpression feed) := by
  rw [wholeExpression_eq]
  refine (invariant.expression_keeps keeps).andThen
    fun expr feed₁ _ keeps shaped => ?_
  refine (invariant.expecting_keeps .endOfInput .endOfExpression keeps).andThen
    fun _ feed₂ _ keeps _ => ?_
  exact .ok keeps shaped

theorem expressions_keeps
    (invariant : FeedInvariant kept isName isValue)
    (multiple : Bool)
    {feed : τ}
    (keeps : kept feed) :
    Keeps kept (fun ts => ∀ t ∈ ts, Expr.Shaped isName isValue t)
      (expressions multiple feed) := by
  rw [expressions_eq]
  refine (invariant.expression_keeps keeps).andThen
    fun expr feed₁ _ keeps shaped => ?_
  refine (invariant.others_keeps multiple feed₁ keeps).andThen
    fun more feed₂ _ keeps shapedMore => ?_
  exact .ok keeps (List.forall_mem_cons.mpr ⟨shaped, shapedMore⟩)

end FeedInvariant

end Formula.Parse
