import Formula.Proofs.Grammar.Tables
import Formula.Proofs.Parse.Interchange
import Formula.Proofs.Parse.Shapes
import Formula.Proofs.Token.Consumed

/-!
# Parsed trees have the right shape

Every token that can be a name is a word, and no token that is a literal stands
for a NaN.  So all trees that are parsed from a text have the right shape, with
words for names and without NaNs, whatever was done with the tokenizer before.
-/

namespace Formula

open Text Grammar

/-- The value is no NaN. -/
def Value.NotNaN (value : Value) : Prop :=
  ∀ x, value = .float x → x.isNaN = false

/-- The tree has the right shape, its names are words, and no literal is a NaN. -/
abbrev Expr.WellShaped (t : Expr) : Prop :=
  t.Shaped IsName Value.NotNaN

/-! ## Tokens -/

/-- The name and the value of the token, if it has them, are a word and no NaN. -/
structure Token.Good (token : Token) : Prop where
  name : ∀ name, token.name? = some name → IsName name
  value : ∀ value, Parse.constant? token = some value → value.NotNaN

namespace Token

/-- A token that some lexeme spells is good. -/
theorem good_of_formed
    {lexeme : List Char}
    {token : Token}
    (formed : Formed lexeme token.kind token.text.toList token.literal) :
    token.Good where
  name name named := by
    have word := String.ofList_toList (s := token.text) ▸ formed.isName
    rw [name?_eq_some_iff] at named
    cases named with
    | identifier isIdentifier => exact word (.inl isIdentifier)
    | bareword isBareword => exact word (.inr (.inl isBareword))
    | keyword isKeyword front starts =>
        exact word (.inr (.inr ⟨isKeyword, _, front, starts⟩))
  value value constant := by
    rw [constant?_eq_some_iff] at constant
    rintro x rfl
    cases constant with
    | float isNumber spelled =>
        rw [spelled] at formed
        exact formed.isNaN_eq_false

/-- A token that is malformed, or was never read, has neither a name nor a
value. -/
theorem good_of_error_or_unread
    {token : Token}
    (nothing : token.kind = .error ∨ token.kind = .unread) :
    token.Good where
  name name named := by
    rcases nothing with malformed | unread
    · simp [name?, word?, malformed, TokenKind.isKeyword] at named
    · simp [name?, word?, unread, TokenKind.isKeyword] at named
  value value constant := by
    rcases nothing with malformed | unread
    · simp [Parse.constant?, literalValue?, malformed] at constant
    · simp [Parse.constant?, literalValue?, unread] at constant

end Token

namespace Tokenizer

theorem good_scan
    (flags : Flags)
    (tokenizer : Tokenizer Reader) :
    (tokenizer.scan flags).token.Good := by
  rcases tokenizer.exists_formed flags with malformed | ⟨lexeme, formed⟩
  · exact Token.good_of_error_or_unread (.inl malformed)
  · exact Token.good_of_formed formed

/-- What a call serves is the current token or one that is read. -/
theorem token_get_eq {σ : Type} [CharSource σ]
    (flags : Flags)
    (tokenizer : Tokenizer σ) :
    (tokenizer.get flags).token = tokenizer.token ∨
      (tokenizer.get flags).token = (tokenizer.scan flags).token := by
  rw [get]
  split
  · exact .inl rfl
  split
  · exact .inl rfl
  · exact .inr rfl
  split
  · exact .inr rfl
  · exact .inl rfl

theorem good_get
    (flags : Flags)
    {tokenizer : Tokenizer Reader}
    (good : tokenizer.token.Good) :
    (tokenizer.get flags).token.Good := by
  rcases tokenizer.token_get_eq flags with same | read
  · rwa [same]
  · rw [read]
    exact tokenizer.good_scan flags

theorem good_invariant :
    Parse.FeedInvariant (fun tokenizer : Tokenizer Reader => tokenizer.token.Good)
      IsName Value.NotNaN where
  advance mode _ good := good_get mode.flags good
  unget good := good
  name good := good.name
  value good := good.value

end Tokenizer

/-! ## Runs of a tokenizer -/

namespace Step

open Parse (Keeps)

theorem keeps_singleton
    {σ : Type}
    {kept : σ → Prop}
    {good : Expr → Prop}
    {result : Parse.Result σ Expr}
    (keeps : Keeps kept good result) :
    Keeps kept (fun trees => ∀ t ∈ trees, good t)
      (result.1.map ([·]), result.2) := by
  rcases result with ⟨e | t, rest⟩
  · exact .error keeps.1
  · exact .ok keeps.1 (List.forall_mem_singleton.mpr (keeps.2 t rfl))

theorem perform_keeps
    (step : Step)
    {tokenizer : Tokenizer Reader}
    (good : tokenizer.token.Good) :
    Keeps (fun tokenizer : Tokenizer Reader => tokenizer.token.Good)
      (fun trees => ∀ t ∈ trees, t.WellShaped) (step.perform tokenizer) := by
  have invariant := Tokenizer.good_invariant
  cases step with
  | get flags => exact .ok (Tokenizer.good_get flags good) (List.forall_mem_nil _)
  | unget => exact .ok good (List.forall_mem_nil _)
  | expression => exact keeps_singleton (invariant.expression_keeps good)
  | wholeExpression => exact keeps_singleton (invariant.wholeExpression_keeps good)
  | expressions multiple => exact invariant.expressions_keeps multiple good

/-- The trees that are seen in a run have the right shape.  The induction is on
the steps. -/
theorem wellShaped_of_mem_run
    {steps : List Step}
    {tokenizer : Tokenizer Reader}
    (good : tokenizer.token.Good)
    {seen : Observation}
    (isSeen : seen ∈ run steps tokenizer)
    {trees : List Expr}
    (parsed : seen.outcome = .ok trees) :
    ∀ t ∈ trees, t.WellShaped := by
  induction steps generalizing tokenizer with
  | nil => cases isSeen
  | cons step steps ih =>
      have keeps := perform_keeps step good
      rw [run, List.mem_cons] at isSeen
      rcases isSeen with rfl | later
      · exact keeps.2 trees parsed
      · exact ih keeps.1 later

/-- So do the trees that are seen in a run over any text. -/
theorem wellShaped_of_mem_run_text
    {text : String}
    {steps : List Step}
    {seen : Observation}
    (isSeen : seen ∈ run steps (.ofSource (Cursor.ofString text)))
    {trees : List Expr}
    (parsed : seen.outcome = .ok trees) :
    ∀ t ∈ trees, t.WellShaped := by
  have same := (run_alike (Cursor.rewinding text) steps
    (Tokenizer.alike_ofSource (Cursor.models_ofString text))).1
  rw [same] at isSeen
  exact wellShaped_of_mem_run
    (Token.good_of_error_or_unread (.inr rfl)) isSeen parsed

end Step

end Formula
