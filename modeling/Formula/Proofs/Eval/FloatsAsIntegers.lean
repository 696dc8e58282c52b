import Formula.Proofs.Eval.SpelledLiterals
import Formula.Proofs.Number.Truncation

/-!
# Floats that count as integers

A float counts as the integer next to it on the side of zero, if that is a word,
and as no integer at all otherwise.  So do the texts that spell it.  A float
that counts as an integer serves as this integer wherever one is needed, and one
that does not is refused there.
-/

namespace Formula

/-- The float without its fraction is the given whole number.  Infinities and NaNs
have none. -/
def Number.TruncatesTo (x : Float) (n : ℤ) : Prop :=
  ∃ q, rational? x = some q ∧ truncated q = n

/-- The whole number is a word. -/
def IsWord (n : ℤ) : Prop :=
  -2 ^ 63 ≤ n ∧ n ≤ 2 ^ 63 - 1

open Number (TruncatesTo)

/-! ## Conversion -/

namespace Value

theorem intOfFloat_of_isWord
    {x : Float}
    {n : ℤ}
    (truncates : TruncatesTo x n)
    (isWord : IsWord n) :
    intOfFloat x = .ok (.ofInt n) := by
  rcases truncates with ⟨q, isRational, rfl⟩
  have below := Int.lt_of_le_sub_one isWord.2
  rw [intOfFloat,
    if_pos ((Number.between_words_iff isRational).mpr ⟨isWord.1, below⟩),
    Number.toWord_truncate isRational isWord.1 below]

theorem intOfFloat_of_not_isWord
    {x : Float}
    (noWord : ∀ n, TruncatesTo x n → ¬IsWord n) :
    intOfFloat x = .error (mismatch (float x) .int) := by
  -- Infinities and NaNs fail the bounds themselves; for
  -- all else the bounds are exact.
  refine if_neg ?_
  cases isRational : Number.rational? x with
  | none => exact Number.not_between_words isRational
  | some q =>
      rw [Number.between_words_iff isRational]
      exact fun between =>
        noWord _ ⟨q, isRational, rfl⟩ ⟨between.1, Int.le_sub_one_of_lt between.2⟩

/-- The value is the given float, or a text that spells it. -/
inductive IsFloat (x : Float) : Value → Prop where
  | float : IsFloat x (float x)
  | text {s : String} : ofLiteral? s = some (Value.float x) → IsFloat x (str s)

theorem IsFloat.castInt_eq
    {x : Float}
    {value : Value}
    (isFloat : value.IsFloat x) :
    value.castInt = int <$> intOfFloat x := by
  cases isFloat with
  | float => rfl
  | text spelled => exact (sameConversions_of_ofLiteral? spelled).castInt_eq

/-- The value counts as the whole part of the float if that is a word, and as no
integer otherwise. -/
structure ConvertsLike (x : Float) (value : Value) : Prop where
  cast_iff (result : Value) :
    value.castInt = .ok result ↔
      ∃ n, TruncatesTo x n ∧ IsWord n ∧ result = int (.ofInt n)
  serves {n : ℤ} (truncates : TruncatesTo x n) (isWord : IsWord n) :
    value.ServesAs (.ofInt n)
  refuses (noWord : ∀ n, TruncatesTo x n → ¬IsWord n) :
    value.Refuses (mismatch (float x) .int)

/-- Every float counts as its whole part, where that is a word, and so does every
text that spells it. -/
theorem convertsLike_of_isFloat
    {x : Float}
    {value : Value}
    (isFloat : value.IsFloat x) :
    value.ConvertsLike x where
  cast_iff result := by
    rw [isFloat.castInt_eq]
    constructor
    · intro converted
      by_cases hasWord : ∃ n, TruncatesTo x n ∧ IsWord n
      · rcases hasWord with ⟨n, truncates, isWord⟩
        rw [intOfFloat_of_isWord truncates isWord] at converted
        exact ⟨n, truncates, isWord, (Except.ok.inj converted).symm⟩
      · have noWord := fun n truncates isWord => hasWord ⟨n, truncates, isWord⟩
        rw [intOfFloat_of_not_isWord noWord] at converted
        cases converted
    · rintro ⟨n, truncates, isWord, rfl⟩
      rw [intOfFloat_of_isWord truncates isWord]
      rfl
  serves truncates isWord := by
    apply servesAs_of_castInt
    rw [isFloat.castInt_eq, intOfFloat_of_isWord truncates isWord]
    rfl
  refuses noWord := by
    apply refuses_of_castInt
    rw [isFloat.castInt_eq, intOfFloat_of_not_isWord noWord]
    rfl

/-- The text of the least word with a fraction spells a float that counts as it.
That of the greatest one spells the number behind it, which is refused. -/
theorem convertsLike_of_isFloat_edges :
    let low := Number.ofInt Int64.minValue.toInt
    let high := Number.ofInt Int64.maxValue.toInt
    let least := str "-9223372036854775808.5"
    let greatest := str "9223372036854775807.0"
    (least.IsFloat low ∧ least.ConvertsLike low ∧ least.ServesAs Int64.minValue) ∧
      greatest.IsFloat high ∧ greatest.ConvertsLike high ∧
        greatest.Refuses (mismatch (float high) .int) := by
  intro low high least greatest
  have isLow : least.IsFloat low := by
    apply IsFloat.text
    rw [Grammar.ofLiteral?_eq_some_iff]
    decide +kernel
  have isHigh : greatest.IsFloat high := by
    apply IsFloat.text
    rw [Grammar.ofLiteral?_eq_some_iff]
    decide +kernel
  have converts := convertsLike_of_isFloat isLow
  have converts' := convertsLike_of_isFloat isHigh
  have isLeast : TruncatesTo low (-2 ^ 63) := by
    refine ⟨_, Number.rational?_minValue, ?_⟩
    rw [show (-2 ^ 63 : ℚ) = (-2 ^ 63 : ℤ) by norm_num, Number.truncated_intCast]
  have isBehind : ∀ n, TruncatesTo high n → n = 2 ^ 63 := by
    rintro n ⟨q, isRational, rfl⟩
    obtain rfl := Option.some.inj (Number.rational?_maxValue.symm.trans isRational)
    rw [show (2 ^ 63 : ℚ) = (2 ^ 63 : ℤ) by norm_num, Number.truncated_intCast]
  have noWord : ∀ n, TruncatesTo high n → ¬IsWord n := by
    intro n truncates isWord
    rw [isBehind n truncates] at isWord
    exact absurd isWord.2 (by decide)
  exact ⟨⟨isLow, converts, converts.serves isLeast ⟨le_rfl, by decide⟩⟩, isHigh,
    converts', converts'.refuses noWord⟩

end Value

end Formula
