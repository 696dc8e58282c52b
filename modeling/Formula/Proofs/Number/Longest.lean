import Formula.Number.Word
import Formula.Proofs.Number.Spelling
import Formula.Token.Basic

/-!
# Longest numbers

A number in a text reaches as far as it can.  `NumberText` says which texts are
numbers, and `LongestPrefix` which of those in front of a text is taken.  What
can follow the longest number is what none of its parts could go on with.
-/

namespace Formula

namespace Text

/-! ## Longest prefixes -/

/-- The longest text of a language in front of a text, and what is behind it. -/
structure LongestPrefix
    (language : List Char → Prop)
    (text lexeme behind : List Char) :
    Prop where
  text_eq : text = lexeme ++ behind
  isMember : language lexeme
  longest : ∀ longer rest, text = longer ++ rest → language longer →
    longer.length ≤ lexeme.length

/-- Nothing of a language is in front of a text, other than nothing at all. -/
def Lacks (language : List Char → Prop) (text : List Char) : Prop :=
  ∀ part rest, text = part ++ rest → language part → part = []

/-- Where one text of the language is in front, there is a longest one.  The
induction is on what is left behind it. -/
theorem exists_longestPrefix
    {language : List Char → Prop}
    {text lexeme behind : List Char}
    (text_eq : text = lexeme ++ behind)
    (isMember : language lexeme) :
    ∃ lexeme behind, LongestPrefix language text lexeme behind := by
  by_cases goesOn : ∃ longer rest, text = longer ++ rest ∧ language longer ∧
      lexeme.length < longer.length
  · rcases goesOn with ⟨longer, rest, text_eq', isMember', lt⟩
    have shorter : rest.length < behind.length := by
      have sameLength := congrArg List.length (text_eq.symm.trans text_eq')
      simp only [List.length_append] at sameLength
      omega
    exact exists_longestPrefix text_eq' isMember'
  · refine ⟨lexeme, behind, text_eq, isMember,
      fun longer rest text_eq' isMember' => ?_⟩
    rw [← Nat.not_lt]
    exact fun lt => goesOn ⟨longer, rest, text_eq', isMember', lt⟩
termination_by behind.length

section

variable {language : List Char → Prop} {text lexeme behind : List Char}

/-- The longest text does not go on. -/
theorem LongestPrefix.eq_nil_of_append
    (longest : LongestPrefix language text lexeme behind)
    {more rest : List Char}
    (isBehind : behind = more ++ rest)
    (isMember : language (lexeme ++ more)) :
    more = [] := by
  have within := longest.longest (lexeme ++ more) rest
    (by rw [longest.text_eq, isBehind, List.append_assoc]) isMember
  rw [List.length_append] at within
  exact List.length_eq_zero_iff.mp (by omega)

/-- There is one longest text. -/
theorem LongestPrefix.unique
    {lexeme' behind' : List Char}
    (longest : LongestPrefix language text lexeme behind)
    (longest' : LongestPrefix language text lexeme' behind') :
    lexeme = lexeme' ∧ behind = behind' := by
  have sameLength : lexeme.length = lexeme'.length :=
    Nat.le_antisymm
      (longest'.longest lexeme behind longest.text_eq longest.isMember)
      (longest.longest lexeme' behind' longest'.text_eq longest'.isMember)
  exact List.append_inj (longest.text_eq.symm.trans longest'.text_eq) sameLength

end

end Text

namespace Number

open Text

/-! ## Texts of numbers -/

/-- The letters behind a leading zero that announce another base than ten. -/
def bases : List (Char × Nat) :=
  [('x', 16), ('X', 16), ('o', 8), ('O', 8), ('b', 2), ('B', 2)]

/-- The base letters are letters. -/
theorem isNameFirst_of_mem_bases : ∀ base ∈ bases, isNameFirst base.1 := by
  decide

/-- The texts of numbers: decimal ones, and whole numbers in another base. -/
inductive NumberText : List Char → Prop where
  | decimal (spelling : Spelling) :
      NumberText spelling.chars
  | radix {sign digits : List Char} {letter : Char} {radix : Nat} :
      Signed sign → (letter, radix) ∈ bases → digits ≠ [] →
        (∀ c ∈ digits, isDigit radix c) →
          NumberText (sign ++ '0' :: letter :: digits)

/-- What a number means: a whole number if a word holds it, and else a float.  In
another base than ten, a word holds the digits, and a minus sign negates the
word.  Whole numbers that are too large mean nothing. -/
inductive Means : List Char → Option Numeral → Prop where
  | whole {sign run : List Char} {n : Int64} :
      Signed sign → Digits run →
        n.toInt = Binary.signed (sign = ['-']) (ofDigits 10 run) →
          Means (sign ++ run) (some (.int n))
  | tooLarge {sign run : List Char} :
      Signed sign → Digits run →
        Binary.signed (sign = ['-']) (ofDigits 10 run) < Int64.minValue.toInt ∨
          Int64.maxValue.toInt < Binary.signed (sign = ['-']) (ofDigits 10 run) →
            Means (sign ++ run) none
  | radix {sign digits : List Char} {letter : Char} {radix : Nat} {n : Int64} :
      Signed sign → (letter, radix) ∈ bases → digits ≠ [] →
        (∀ c ∈ digits, isDigit radix c) →
          ofDigits radix digits < UInt64.size →
            n.toInt = (Binary.signed (sign = ['-']) (ofDigits radix digits)).bmod
              UInt64.size →
                Means (sign ++ '0' :: letter :: digits) (some (.int n))
  | radixTooLarge {sign digits : List Char} {letter : Char} {radix : Nat} :
      Signed sign → (letter, radix) ∈ bases → digits ≠ [] →
        (∀ c ∈ digits, isDigit radix c) →
          UInt64.size ≤ ofDigits radix digits →
            Means (sign ++ '0' :: letter :: digits) none
  | float {spelling : Spelling} {x : Float} :
      spelling.places ≠ [] ∨ spelling.power ≠ [] →
        floatOfChars? spelling.chars = some x →
          Means spelling.chars (some (.float x))

/-- Every number means something, or is too large. -/
theorem NumberText.exists_means
    {lexeme : List Char}
    (isNumber : NumberText lexeme) :
    ∃ numeral, Means lexeme numeral := by
  cases isNumber with
  | @radix sign digits letter radix signed isBase nonempty belongs =>
      by_cases fits : ofDigits radix digits < UInt64.size
      · exact ⟨_, .radix signed isBase nonempty belongs fits Int64.toInt_ofInt⟩
      · exact ⟨none, .radixTooLarge signed isBase nonempty belongs
          (Nat.le_of_not_lt fits)⟩
  | decimal spelling =>
      by_cases isFloat : spelling.places ≠ [] ∨ spelling.power ≠ []
      · rcases Decimal.exists_ofChars?_eq_some spelling with ⟨decimal, read⟩
        exact ⟨some (.float decimal.toFloat),
          .float isFloat (by rw [floatOfChars?, read]; rfl)⟩
      · rcases spelling with
          ⟨sign, whole, places, power, signed, digits, hasPlaces, hasPower⟩
        simp only [ne_eq, not_or, Decidable.not_not] at isFloat
        obtain ⟨rfl, rfl⟩ := isFloat
        have chars : Spelling.chars
            ⟨sign, whole, [], [], signed, digits, hasPlaces, hasPower⟩ =
              sign ++ whole := by
          simp [Spelling.chars]
        rw [chars]
        by_cases fits :
          Binary.signed (sign = ['-']) (ofDigits 10 whole) < Int64.minValue.toInt ∨
            Int64.maxValue.toInt < Binary.signed (sign = ['-']) (ofDigits 10 whole)
        · exact ⟨none, .tooLarge signed digits fits⟩
        · rw [Int64.toInt_minValue, Int64.toInt_maxValue] at fits
          refine ⟨_, .whole signed digits (Int64.toInt_ofInt_of_le ?_ ?_)⟩
          · omega
          · omega

theorem Digits.append
    {run : List Char}
    (digits : Digits run)
    {c : Char}
    (digit : Text.isDecimal c) :
    Digits (run ++ [c]) where
  nonempty := List.append_ne_nil_of_right_ne_nil run (List.cons_ne_nil c [])
  isDecimal d isMember := by
    rcases List.mem_append.mp isMember with inRun | isLast
    · exact digits.isDecimal d inRun
    · obtain rfl := List.mem_singleton.mp isLast
      exact digit

theorem Digits.singleton
    {c : Char}
    (digit : Text.isDecimal c) :
    Digits [c] where
  nonempty := List.cons_ne_nil c []
  isDecimal d isMember := by
    obtain rfl := List.mem_singleton.mp isMember
    exact digit

/-! ## What is in front of a number -/

/-- In front of digits there is one sign, or none. -/
theorem Signed.append_inj
    {sign sign' rest rest' : List Char}
    {c c' : Char}
    (signed : Signed sign)
    (signed' : Signed sign')
    (digit : isDecimal c)
    (digit' : isDecimal c')
    (same : sign ++ c :: rest = sign' ++ c' :: rest') :
    sign = sign' := by
  have notSign : ∀ d, isDecimal d → d ≠ '+' ∧ d ≠ '-' := by
    intro d isDigit
    constructor <;> rintro rfl <;> exact absurd isDigit (by decide)
  have notSignC := notSign c digit
  have notSignC' := notSign c' digit'
  cases signed <;> cases signed' <;> grind

/-! ## What is behind a number -/

/-- No part of a spelling goes on in what follows it. -/
structure Spelling.Ends
    (spelling : Spelling)
    (rest : List Char) :
    Prop where
  noDigit : rest[0]?.any isDecimal = false
  noPlaces : spelling.places = [] → spelling.power = [] → Lacks Places rest
  noPower : spelling.power = [] → Lacks Power rest
  noRadix : spelling.whole = ['0'] → spelling.places = [] → spelling.power = [] →
    ∀ letter radix, rest[0]? = some letter → (letter, radix) ∈ bases →
      rest[1]?.any (isDigit radix) = false

section

variable {text rest : List Char}

/-- A digit goes on with the last part of a spelling. -/
theorem Spelling.exists_append_digit
    (spelling : Spelling)
    {c : Char}
    (digit : isDecimal c) :
    ∃ longer : Spelling, longer.chars = spelling.chars ++ [c] := by
  rcases spelling with
    ⟨sign, whole, places, power, signed, digits, hasPlaces, hasPower⟩
  cases hasPower with
  | @some letter sign' run isLetter signed' digits' =>
      refine ⟨⟨sign, whole, places, _, signed, digits, hasPlaces,
        .some isLetter signed' (digits'.append digit)⟩, ?_⟩
      simp [chars]
  | none =>
      cases hasPlaces with
      | @some run digits' =>
          refine ⟨⟨sign, whole, _, [], signed, digits,
            .some (digits'.append digit), .none⟩, ?_⟩
          simp [chars]
      | none =>
          refine ⟨⟨sign, _, [], [], signed, digits.append digit, .none, .none⟩, ?_⟩
          simp [chars]

/-- Behind the longest number stands nothing that it could go on with. -/
theorem Spelling.ends_of_longest
    {spelling : Spelling}
    (longest : LongestPrefix NumberText text spelling.chars rest) :
    spelling.Ends rest where
  noDigit := by
    rw [← Bool.not_eq_true]
    intro digit
    rcases rest with _ | ⟨c, rest⟩
    · cases digit
    rcases spelling.exists_append_digit digit with ⟨longer, same⟩
    exact absurd (longest.eq_nil_of_append rfl (same ▸ .decimal longer))
      (List.cons_ne_nil c [])
  noPlaces noPlaces noPower := by
    intro part behind isRest hasPlaces
    rcases spelling with ⟨sign, whole, places, power, signed, digits, _, _⟩
    obtain rfl : places = [] := noPlaces
    obtain rfl : power = [] := noPower
    refine longest.eq_nil_of_append isRest ?_
    have longer :=
      NumberText.decimal ⟨sign, whole, part, [], signed, digits, hasPlaces, .none⟩
    simpa [chars] using longer
  noPower noPower := by
    intro part behind isRest hasPower
    rcases spelling with ⟨sign, whole, places, power, signed, digits, hasPlaces, _⟩
    obtain rfl : power = [] := noPower
    refine longest.eq_nil_of_append isRest ?_
    have longer :=
      NumberText.decimal ⟨sign, whole, places, part, signed, digits, hasPlaces,
      hasPower⟩
    simpa [chars] using longer
  noRadix isZero noPlaces noPower letter radix isLetter isBase := by
    rw [← Bool.not_eq_true]
    intro digit
    rcases rest with _ | ⟨first, _ | ⟨c, rest⟩⟩
    · cases isLetter
    · cases digit
    obtain rfl : first = letter := Option.some.inj isLetter
    rcases spelling with ⟨sign, whole, places, power, signed, digits, _, _⟩
    obtain rfl : whole = ['0'] := isZero
    obtain rfl : places = [] := noPlaces
    obtain rfl : power = [] := noPower
    have belongs : ∀ d ∈ [c], isDigit radix d := by
      intro d isMember
      obtain rfl := List.mem_singleton.mp isMember
      exact digit
    have longer := NumberText.radix signed isBase (List.cons_ne_nil c []) belongs
    have isEmpty : [first, c] = [] := by
      refine longest.eq_nil_of_append
        (rfl : first :: c :: rest = [first, c] ++ rest) ?_
      simpa [chars] using longer
    cases isEmpty

/-- The digits of another base go on as far as they can. -/
theorem NumberText.noDigit_of_longest
    {sign digits : List Char}
    {letter : Char}
    {radix : Nat}
    (longest :
      LongestPrefix NumberText text (sign ++ '0' :: letter :: digits) rest)
    (signed : Signed sign)
    (isBase : (letter, radix) ∈ bases)
    (belongs : ∀ c ∈ digits, isDigit radix c) :
    rest[0]?.any (isDigit radix) = false := by
  rw [← Bool.not_eq_true]
  intro digit
  rcases rest with _ | ⟨c, rest⟩
  · cases digit
  have belongs' : ∀ d ∈ digits ++ [c], isDigit radix d := by
    intro d isMember
    rcases List.mem_append.mp isMember with inDigits | isLast
    · exact belongs d inDigits
    · obtain rfl := List.mem_singleton.mp isLast
      exact digit
  have longer := NumberText.radix signed isBase
    (List.append_ne_nil_of_right_ne_nil digits (List.cons_ne_nil c [])) belongs'
  have isEmpty : [c] = [] := by
    refine longest.eq_nil_of_append (rfl : c :: rest = [c] ++ rest) ?_
    simpa using longer
  cases isEmpty

end

end Number

end Formula
