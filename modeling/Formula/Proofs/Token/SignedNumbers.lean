import Formula.Proofs.Token.Signs

/-!
# Signs glued to numbers

Where an operand may come, a sign directly in front of a digit belongs to the
number.  With it, the number reaches as far as without it.  It means the same for
a plus sign, and the negated number for a minus sign: integers wrap around, so
that this holds for numbers of other bases as well, and at the least integer.
-/

namespace Formula

open Text

/-- The number behind a sign. -/
def Numeral.signed (c : Char) : Numeral → Numeral
  | .int n => .int (if c = '-' then -n else n)
  | .float x => .float (if c = '-' then -x else x)

namespace Number

variable {c lead : Char}

theorem Signed.singleton (isSign : c = '+' ∨ c = '-') : Signed [c] := by
  rcases isSign with rfl | rfl
  · exact .plus
  · exact .minus

/-- In front of a digit there is no sign, if there is none. -/
theorem Signed.eq_nil_of_digit
    {sign rest rest' : List Char}
    (signed : Signed sign)
    (digit : isDecimal lead)
    (same : lead :: rest = sign ++ rest') :
    sign = [] := by
  cases signed with
  | none => rfl
  | plus | minus =>
      obtain rfl := (List.cons.inj same).1
      exact absurd digit (by decide)

/-! ## Texts -/

/-- A sign in front of a number without one makes it a number with one. -/
theorem NumberText.cons_sign
    {rest : List Char}
    (isSign : c = '+' ∨ c = '-')
    (digit : isDecimal lead)
    (isNumber : NumberText (lead :: rest)) :
    NumberText (c :: lead :: rest) := by
  generalize isText : lead :: rest = text at isNumber ⊢
  cases isNumber with
  | radix signed isBase nonempty belongs =>
      obtain rfl := signed.eq_nil_of_digit digit isText
      exact .radix (.singleton isSign) isBase nonempty belongs
  | decimal spelling =>
      rcases spelling with
        ⟨sign, whole, places, power, signed, digits, hasPlaces, hasPower⟩
      obtain rfl := signed.eq_nil_of_digit digit isText
      exact .decimal
        ⟨[c], whole, places, power, .singleton isSign, digits, hasPlaces, hasPower⟩

/-- The sign can be left out. -/
theorem NumberText.of_cons_sign
    {text : List Char}
    (isSign : c = '+' ∨ c = '-')
    (isNumber : NumberText (c :: text)) :
    NumberText text := by
  have sign_eq : ∀ {sign lead rest}, Signed sign → isDecimal lead →
      c :: text = sign ++ lead :: rest →
      sign = [c] := by
    intro sign lead rest signed digit same
    cases signed with
    | none =>
        obtain rfl := (List.cons.inj same).1
        rcases isSign with rfl | rfl <;> exact absurd digit (by decide)
    | plus | minus => exact (List.cons.inj same).1 ▸ rfl
  generalize isText : c :: text = signedText at isNumber
  cases isNumber with
  | radix signed isBase nonempty belongs =>
      obtain rfl := sign_eq signed (by decide) isText
      obtain rfl := (List.cons.inj isText).2
      exact .radix .none isBase nonempty belongs
  | decimal spelling =>
      rcases spelling with
        ⟨sign, _ | ⟨lead, run⟩, places, power, signed, digits, hasPlaces, hasPower⟩
      · exact absurd rfl digits.nonempty
      · have digit := digits.isDecimal lead List.mem_cons_self
        obtain rfl := sign_eq signed digit isText
        obtain rfl := (List.cons.inj isText).2
        exact .decimal
          ⟨[], lead :: run, places, power, .none, digits, hasPlaces, hasPower⟩

/-- A number reaches as far with a sign as without it. -/
theorem longest_cons_sign
    {text lexeme behind : List Char}
    (isSign : c = '+' ∨ c = '-')
    (digit : isDecimal lead)
    (longest : LongestPrefix NumberText (lead :: text) lexeme behind) :
    LongestPrefix NumberText (c :: lead :: text) (c :: lexeme) behind where
  text_eq := congrArg (c :: ·) longest.text_eq
  isMember := by
    rcases lexeme with _ | ⟨first, lexeme⟩
    · rcases longest.isMember.exists_lead with ⟨_, _, _, _, _, isEmpty⟩
      simp at isEmpty
    · obtain rfl := (List.cons.inj longest.text_eq).1
      exact longest.isMember.cons_sign isSign digit
  longest longer rest text_eq isMember := by
    rcases longer with _ | ⟨first, longer⟩
    · exact Nat.zero_le _
    · obtain ⟨rfl, isText⟩ := List.cons.inj text_eq
      exact Nat.succ_le_succ
        (longest.longest longer rest isText (isMember.of_cons_sign isSign))

/-! ## Meanings -/

/-- The sign of a decimal is all that is different with a sign in front of it. -/
theorem Decimal.ofChars?_cons_sign
    {rest : List Char}
    (isSign : c = '+' ∨ c = '-')
    (digit : isDecimal lead)
    {decimal : Decimal}
    (read : ofChars? (lead :: rest) = some decimal) :
    decimal.negative = false ∧
      ofChars? (c :: lead :: rest) =
        some { decimal with negative := decide (c = '-') } := by
  have split :
      splitSign (c :: lead :: rest) = (decide (c = '-'), lead :: rest) := by
    rcases isSign with rfl | rfl <;> rfl
  rw [ofChars?, splitSign_cons digit] at read
  rw [ofChars?, split]
  dsimp only at read ⊢
  generalize splitFirst (fun c => c == 'e' || c == 'E') (lead :: rest) = parts
    at read ⊢
  generalize splitFirst (· == '.') parts.1 = mantissa at read ⊢
  cases exponent : (parts.2.map ofExponent?).getD (some 0) with
  | none => simp [exponent] at read
  | some exponent' =>
      cases whole : ofDigits? mantissa.1 with
      | none => simp [exponent, whole] at read
      | some _ =>
          cases isFraction : mantissa.2 with
          | none =>
              simp only [exponent, whole, isFraction] at read ⊢
              obtain rfl := Option.some.inj read
              exact ⟨rfl, rfl⟩
          | some places =>
              cases fraction : ofDigits? places with
              | none => simp [exponent, whole, isFraction, fraction] at read
              | some _ =>
                  simp only [exponent, whole, isFraction, fraction] at read ⊢
                  obtain rfl := Option.some.inj read
                  exact ⟨rfl, rfl⟩

/-- A minus sign in front of a decimal negates its float, and a plus sign changes
nothing. -/
theorem floatOfChars?_cons_sign
    {rest : List Char}
    (isSign : c = '+' ∨ c = '-')
    (digit : isDecimal lead)
    {x : Float}
    (read : floatOfChars? (lead :: rest) = some x) :
    floatOfChars? (c :: lead :: rest) = some (if c = '-' then -x else x) := by
  rcases Option.map_eq_some_iff.mp read with ⟨decimal, found, rfl⟩
  rcases Decimal.ofChars?_cons_sign isSign digit found with ⟨positive, found'⟩
  rw [floatOfChars?, found', Option.map_some, Decimal.toFloat, Decimal.toFloat,
    positive]
  simp

theorem Means.cons_sign
    {rest : List Char}
    (isSign : c = '+' ∨ c = '-')
    (digit : isDecimal lead)
    {numeral : Numeral}
    (means : Means (lead :: rest) (some numeral)) :
    Means (c :: lead :: rest) (some (numeral.signed c)) := by
  have unsigned : ∀ n, Binary.signed (decide (([] : List Char) = ['-'])) n = n :=
    fun _ => rfl
  have isMinus : ∀ n, Binary.signed (decide ([c] = ['-'])) n = if c = '-' then
      -(n : Int) else n := by
    intro n
    simp [Binary.signed]
  have toInt_signed : ∀ n : Int64, (if c = '-' then -n else n).toInt =
      if c = '-' then (-n.toInt).bmod UInt64.size else n.toInt := by
    intro n
    split
    · exact Int64.toInt_neg n
    · rfl
  generalize isText : lead :: rest = text at means ⊢
  cases means with
  | @whole sign run n signed digits isValue =>
      obtain rfl := signed.eq_nil_of_digit digit isText
      refine .whole (.singleton isSign) digits ?_
      rw [unsigned] at isValue
      have bound := Int64.toInt_lt n
      have size : UInt64.size = 2 ^ 64 := rfl
      rw [isValue] at bound
      rw [toInt_signed, isValue, isMinus, size,
        Int.bmod_eq_of_le (by omega) (by omega)]
  | @radix sign digits letter base n signed isBase nonempty belongs fits isValue =>
      obtain rfl := signed.eq_nil_of_digit digit isText
      refine .radix (.singleton isSign) isBase nonempty belongs fits ?_
      rw [unsigned] at isValue
      rw [toInt_signed, isValue, isMinus]
      split
      · exact Int.bmod_neg_bmod
      · rfl
  | @float spelling x isFloat read =>
      rcases spelling with
        ⟨sign, whole, places, power, signed, digits, hasPlaces, hasPower⟩
      obtain rfl := signed.eq_nil_of_digit digit isText
      rw [← isText] at read
      have readSigned := floatOfChars?_cons_sign isSign digit read
      rw [isText] at readSigned
      let spelling : Spelling :=
        ⟨[c], whole, places, power, .singleton isSign, digits, hasPlaces, hasPower⟩
      have means : Means spelling.chars _ := .float isFloat readSigned
      exact means

end Number

namespace Scanned

open Number

/-- Where an operand may come, a number with a sign reaches as far as the number
without it.  If the latter means something, so does the former. -/
theorem exists_signed
    {c lead : Char}
    (isSign : c = '+' ∨ c = '-')
    (digit : isDecimal lead)
    (text : List Char) :
    ∃ (lexeme behind : List Char) (numeral numeral' : Option Numeral),
      lead :: text = lexeme ++ behind ∧
      (∀ past, lex Flags.operand (⟨past, lexeme ++ behind⟩ : Reader) =
        ofNumber lexeme numeral ⟨lexeme.reverse ++ past, behind⟩) ∧
      (∀ past, lex Flags.operand (⟨past, c :: lexeme ++ behind⟩ : Reader) =
        ofNumber (c :: lexeme) numeral' ⟨(c :: lexeme).reverse ++ past, behind⟩) ∧
      ∀ meant, numeral = some meant → numeral' = some (meant.signed c) := by
  have starts : StartsNumber Flags.operand (lead :: text) :=
    ⟨[], lead, text, .none, .inl rfl, digit, rfl⟩
  have startsSigned : StartsNumber Flags.operand (c :: lead :: text) :=
    ⟨[c], lead, text, .singleton isSign, .inr rfl, digit, rfl⟩
  rcases starts.exists_longest with ⟨lexeme, behind, longest⟩
  have longestSigned := longest_cons_sign isSign digit longest
  have isText := longest.text_eq
  rcases longest.isMember.exists_means with ⟨numeral, means⟩
  have meansSigned : ∃ numeral', Means (c :: lexeme) numeral' ∧
      ∀ meant, numeral = some meant → numeral' = some (meant.signed c) := by
    cases numeral with
    | none =>
        rcases longestSigned.isMember.exists_means with ⟨numeral', means'⟩
        exact ⟨numeral', means', nofun⟩
    | some meant =>
        rcases lexeme with _ | ⟨first, lexeme⟩
        · rcases longest.isMember.exists_lead with ⟨_, _, _, _, _, isEmpty⟩
          simp at isEmpty
        · obtain rfl := (List.cons.inj isText).1
          refine ⟨_, means.cons_sign isSign digit, ?_⟩
          rintro _ ⟨⟩
          rfl
  rcases meansSigned with ⟨numeral', means', signed⟩
  refine ⟨lexeme, behind, numeral, numeral', isText, fun past => ?_,
    fun past => ?_, signed⟩
  · rw [← isText]
    exact lex_of_means starts longest means past
  · rw [List.cons_append, ← isText]
    exact lex_of_means startsSigned longestSigned means' past

end Scanned

end Formula
