import Formula.Number.Shortest
import Formula.Proofs.Text.Classes

/-!
# Spellings of decimal numbers

A `Spelling` is the text of a decimal number, cut into its parts.  Whatever is
read as a decimal has one, and so have the texts of integers and of floats; the
latter always have a fraction or an exponent.
-/

namespace Formula.Number

open Text

/-- A run of one or more decimal digits. -/
structure Digits (run : List Char) : Prop where
  nonempty : run ≠ []
  isDecimal : ∀ c ∈ run, isDecimal c

/-- A digit differs from whatever is none. -/
theorem Digits.ne
    {run : List Char}
    (digits : Digits run)
    {c d : Char}
    (isMember : c ∈ run)
    (notDigit : Text.isDecimal d = false) :
    c ≠ d := by
  rintro rfl
  have digit := digits.isDecimal c isMember
  simp [notDigit] at digit

/-- A decimal point with digits behind it, or nothing. -/
inductive Places : List Char → Prop where
  | none : Places []
  | some {run : List Char} : Digits run → Places ('.' :: run)

/-- A sign, or nothing. -/
inductive Signed : List Char → Prop where
  | none : Signed []
  | plus : Signed ['+']
  | minus : Signed ['-']

theorem Signed.mem
    {sign : List Char}
    (signed : Signed sign)
    {c : Char}
    (isMember : c ∈ sign) :
    c = '+' ∨ c = '-' := by
  cases signed with
  | none => cases isMember
  | plus => exact Or.inl (List.mem_singleton.mp isMember)
  | minus => exact Or.inr (List.mem_singleton.mp isMember)

/-- An exponent, or nothing. -/
inductive Power : List Char → Prop where
  | none : Power []
  | some {letter : Char} {sign run : List Char} :
      letter = 'e' ∨ letter = 'E' → Signed sign → Digits run →
        Power (letter :: (sign ++ run))

/-- The text of a decimal number in its parts. -/
structure Spelling where
  sign : List Char
  whole : List Char
  places : List Char
  power : List Char
  signed : Signed sign
  digits : Digits whole
  hasPlaces : Places places
  hasPower : Power power

/-- The text that is spelled. -/
def Spelling.chars (spelling : Spelling) : List Char :=
  spelling.sign ++ (spelling.whole ++ (spelling.places ++ spelling.power))

namespace Decimal

/-- Digits are read as what they spell. -/
theorem ofDigits?_eq_some_iff
    {chars : List Char}
    {n : Nat} :
    ofDigits? chars = some n ↔ Digits chars ∧ ofDigits 10 chars = n := by
  rw [ofDigits?]
  constructor
  · intro read
    split at read
    case isTrue isRun =>
      simp only [Bool.and_eq_true, Bool.not_eq_true', List.isEmpty_eq_false_iff,
        List.all_eq_true] at isRun
      exact ⟨⟨isRun.1, isRun.2⟩, Option.some.inj read⟩
    case isFalse => cases read
  · rintro ⟨digits, rfl⟩
    rw [if_pos]
    simp only [Bool.and_eq_true, Bool.not_eq_true', List.isEmpty_eq_false_iff,
      List.all_eq_true]
    exact ⟨digits.nonempty, digits.isDecimal⟩

/-- A text is its sign and what follows it. -/
theorem splitSign_eq
    {chars rest : List Char}
    {negative : Bool}
    (split : splitSign chars = (negative, rest)) :
    ∃ sign, Signed sign ∧ chars = sign ++ rest := by
  rw [splitSign.eq_def] at split
  split at split <;> cases split
  · exact ⟨['-'], .minus, rfl⟩
  · exact ⟨['+'], .plus, rfl⟩
  · exact ⟨[], .none, rfl⟩

/-- A text is cut at the first character with a property, or is left whole. -/
theorem splitFirst_eq
    {p : Char → Bool}
    {chars front : List Char}
    {behind : Option (List Char)}
    (split : splitFirst p chars = (front, behind)) :
    (behind = none ∧ chars = front) ∨
      ∃ c rest, p c ∧ behind = some rest ∧ chars = front ++ c :: rest := by
  rw [splitFirst] at split
  split at split
  case h_1 =>
    cases split
    exact Or.inl ⟨rfl, rfl⟩
  case h_2 c rest found =>
    cases split
    have holds : p c := by
      have first := List.head?_dropWhile_not (!p ·) chars
      rw [found] at first
      simpa using first
    refine Or.inr ⟨c, rest, holds, rfl, ?_⟩
    rw [← found, List.takeWhile_append_dropWhile]

/-- What is read as an exponent is a sign and digits. -/
theorem ofExponent?_eq
    {chars : List Char}
    {exponent : Int}
    (read : ofExponent? chars = some exponent) :
    ∃ sign run, Signed sign ∧ Digits run ∧ chars = sign ++ run := by
  rcases split : splitSign chars with ⟨negative, run⟩
  rcases splitSign_eq split with ⟨sign, signed, rfl⟩
  simp only [ofExponent?, split] at read
  rcases Option.map_eq_some_iff.mp read with ⟨n, digits, _⟩
  exact ⟨sign, run, signed, (ofDigits?_eq_some_iff.mp digits).1, rfl⟩

/-- What is read as a number is the text of one. -/
theorem exists_spelling
    {chars : List Char}
    {decimal : Decimal}
    (read : ofChars? chars = some decimal) :
    ∃ spelling : Spelling, spelling.chars = chars := by
  rcases splitS : splitSign chars with ⟨negative, unsigned⟩
  rcases splitE : splitFirst (fun c => c == 'e' || c == 'E') unsigned with
    ⟨mantissa, power⟩
  rcases splitP : splitFirst (· == '.') mantissa with ⟨whole, fraction⟩
  rcases splitSign_eq splitS with ⟨sign, signed, rfl⟩
  simp only [ofChars?, splitS, splitE, splitP] at read
  rcases Option.bind_eq_some_iff.mp read with ⟨exponent, readPower, read⟩
  rcases Option.bind_eq_some_iff.mp read with ⟨n, readWhole, read⟩
  have digits := (ofDigits?_eq_some_iff.mp readWhole).1
  have places : ∃ text, Places text ∧ mantissa = whole ++ text := by
    rcases splitFirst_eq splitP with ⟨rfl, rfl⟩ | ⟨point, run, isPoint, rfl, rfl⟩
    · exact ⟨[], .none, (List.append_nil _).symm⟩
    · rcases Option.bind_eq_some_iff.mp read with ⟨m, readPlaces, _⟩
      obtain rfl := eq_of_beq isPoint
      exact ⟨'.' :: run, .some (ofDigits?_eq_some_iff.mp readPlaces).1, rfl⟩
  have powers : ∃ text, Power text ∧ unsigned = mantissa ++ text := by
    rcases splitFirst_eq splitE with
      ⟨rfl, rfl⟩ | ⟨letter, behind, isLetter, rfl, rfl⟩
    · exact ⟨[], .none, (List.append_nil _).symm⟩
    · rcases ofExponent?_eq readPower with ⟨sign, run, signed, digits, rfl⟩
      simp only [Bool.or_eq_true, beq_iff_eq] at isLetter
      exact ⟨letter :: (sign ++ run), .some isLetter signed digits, rfl⟩
  rcases places with ⟨placesText, hasPlaces, rfl⟩
  rcases powers with ⟨powerText, hasPower, rfl⟩
  refine
    ⟨⟨sign, whole, placesText, powerText, signed, digits, hasPlaces, hasPower⟩, ?_⟩
  simp only [Spelling.chars, List.append_assoc]

/-! ## Spellings are read -/

/-- A digit is no sign to take off. -/
theorem splitSign_cons
    {c : Char}
    (digit : isDecimal c)
    (rest : List Char) :
    splitSign (c :: rest) = (false, c :: rest) := by
  have range := isDecimal_iff.mp digit
  rw [splitSign.eq_def]
  split
  case h_1 same =>
    cases same
    exact absurd range (by decide)
  case h_2 same =>
    cases same
    exact absurd range (by decide)
  case h_3 => rfl

/-- A sign is split off in front of digits. -/
theorem splitSign_append
    {sign run : List Char}
    (signed : Signed sign)
    (digits : Digits run)
    (rest : List Char) :
    splitSign (sign ++ (run ++ rest)) = (decide (sign = ['-']), run ++ rest) := by
  cases signed with
  | plus => rfl
  | minus => rfl
  | none =>
      cases run with
      | nil => exact absurd rfl digits.nonempty
      | cons c run =>
          exact splitSign_cons
            (digits.isDecimal c List.mem_cons_self) (run ++ rest)

section Cuts

variable {p : Char → Bool} {front : List Char}

/-- A text without the property is left whole. -/
theorem splitFirst_of_none (before : ∀ c ∈ front, !p c) :
    splitFirst p front = (front, none) := by
  have nothing : front.dropWhile (!p ·) = [] := by
    rw [← List.append_nil front, List.dropWhile_append_of_pos before]
    rfl
  rw [splitFirst, nothing]

/-- A text is cut where its first character with the property stands. -/
theorem splitFirst_append
    {c : Char}
    (rest : List Char)
    (before : ∀ d ∈ front, !p d)
    (holds : p c) :
    splitFirst p (front ++ c :: rest) = (front, some rest) := by
  rw [splitFirst, List.dropWhile_append_of_pos before,
    List.takeWhile_append_of_pos before]
  simp [holds]

end Cuts

/-- The mantissa is cut at its point. -/
theorem splitFirst_point
    {whole places : List Char}
    (digits : Digits whole)
    (hasPlaces : Places places) :
    ∃ fraction, splitFirst (· == '.') (whole ++ places) = (whole, fraction) ∧
      ∀ run, fraction = some run → Digits run := by
  have noPoint : ∀ c ∈ whole, !(c == '.') := by
    intro c isMember
    rw [beq_eq_false_iff_ne.mpr (digits.ne isMember rfl)]
    rfl
  cases hasPlaces with
  | none =>
      rw [List.append_nil]
      exact ⟨none, splitFirst_of_none noPoint, nofun⟩
  | @some run digits =>
      refine ⟨some run, splitFirst_append run noPoint rfl, ?_⟩
      intro run' same
      obtain rfl := Option.some.inj same
      exact digits

/-- A spelling is cut at the letter of its exponent, which is read. -/
theorem splitFirst_mark
    {whole places power : List Char}
    (digits : Digits whole)
    (hasPlaces : Places places)
    (hasPower : Power power) :
    ∃ behind,
      splitFirst (fun c => c == 'e' || c == 'E') (whole ++ (places ++ power)) =
          (whole ++ places, behind) ∧
        ∃ exponent, (behind.map ofExponent?).getD (some 0) = some exponent := by
  have noMark : ∀ {run}, Digits run → ∀ c ∈ run, !(c == 'e' || c == 'E') := by
    intro run digits c isMember
    rw [beq_eq_false_iff_ne.mpr (digits.ne isMember rfl),
      beq_eq_false_iff_ne.mpr (digits.ne isMember rfl)]
    rfl
  have before : ∀ c ∈ whole ++ places, !(c == 'e' || c == 'E') := by
    intro c isMember
    rcases List.mem_append.mp isMember with inWhole | inPlaces
    · exact noMark digits c inWhole
    · cases hasPlaces with
      | none => cases inPlaces
      | some digits =>
          rcases List.mem_cons.mp inPlaces with rfl | inRun
          · rfl
          · exact noMark digits c inRun
  rw [← List.append_assoc]
  cases hasPower with
  | none =>
      rw [List.append_nil]
      exact ⟨none, splitFirst_of_none before, 0, rfl⟩
  | @some letter sign run isLetter signed digits =>
      refine ⟨some (sign ++ run),
        splitFirst_append _ before (by simpa using isLetter), ?_⟩
      have split := splitSign_append signed digits []
      rw [List.append_nil] at split
      have read := ofDigits?_eq_some_iff.mpr ⟨digits, rfl⟩
      refine ⟨Binary.signed (decide (sign = ['-'])) (exponentOfDigits run), ?_⟩
      simp only [Option.map_some, Option.getD_some, ofExponent?, split, read]

/-- Every spelling is read as a number. -/
theorem exists_ofChars?_eq_some (spelling : Spelling) :
    ∃ decimal, ofChars? spelling.chars = some decimal := by
  rcases spelling with
    ⟨sign, whole, places, power, signed, digits, hasPlaces, hasPower⟩
  have splitS := splitSign_append signed digits (places ++ power)
  rcases splitFirst_mark digits hasPlaces hasPower with
    ⟨behind, splitE, exponent, readPower⟩
  rcases splitFirst_point digits hasPlaces with ⟨fraction, splitP, arePlaces⟩
  have readWhole := ofDigits?_eq_some_iff.mpr ⟨digits, rfl⟩
  simp only [Spelling.chars, ofChars?, splitS, splitE, splitP, readPower,
    readWhole]
  cases fraction with
  | none => exact ⟨_, rfl⟩
  | some run =>
      have readPlaces := ofDigits?_eq_some_iff.mpr ⟨arePlaces run rfl, rfl⟩
      simp only [readPlaces]
      exact ⟨_, rfl⟩

/-! ## Integers -/

/-- Digits count the same in every reading of them. -/
theorem ofDigits_eq_ofDigitChars
    {run : List Char}
    (isDecimal : ∀ c ∈ run, isDecimal c) :
    ofDigits 10 run = Nat.ofDigitChars 10 run 0 := by
  suffices agree : ∀ start,
      run.foldl (fun sum c => sum * 10 + (digitValue? c).getD 0) start =
        Nat.ofDigitChars 10 run start from
    agree 0
  induction run with
  | nil =>
      intro start
      rw [List.foldl_nil, Nat.ofDigitChars_nil]
  | cons c run ih =>
      intro start
      have digit := digitValue?_of_isDecimal (isDecimal c List.mem_cons_self)
      rw [List.foldl_cons,
        ih fun d isMember => isDecimal d (List.mem_cons_of_mem c isMember),
        Nat.ofDigitChars_cons, digit, Option.getD_some, Nat.mul_comm]

theorem digits_toDigits (n : Nat) : Digits (Nat.toDigits 10 n) :=
  ⟨Nat.toDigits_ne_nil, fun _ isDigit =>
    isDecimal_iff_isDigit.mpr
      (Nat.isDigit_of_mem_toDigits (by decide) (by decide) isDigit)⟩

/-- A whole number is read as what its digits count, with its sign. -/
theorem ofInteger?_append
    {sign run : List Char}
    (signed : Signed sign)
    (digits : Digits run) :
    ofInteger? (sign ++ run) =
      some (Binary.signed (decide (sign = ['-'])) (ofDigits 10 run)) := by
  have split := splitSign_append signed digits []
  rw [List.append_nil] at split
  rw [ofInteger?, split]
  dsimp only
  rw [ofDigits?_eq_some_iff.mpr ⟨digits, rfl⟩, Option.map_some]

/-- An integer is written as a spelling without fraction and exponent, which is
read as the same integer. -/
theorem exists_spelling_of_int (n : Int) :
    ∃ spelling : Spelling,
      spelling.chars = (toString n).toList ∧ spelling.places = [] ∧
        spelling.power = [] ∧
          ofInteger? spelling.chars = some n := by
  have digits := digits_toDigits n.natAbs
  have counts : ofDigits 10 (Nat.toDigits 10 n.natAbs) = n.natAbs := by
    rw [ofDigits_eq_ofDigitChars digits.isDecimal, Nat.ofDigitChars_ten_toDigits]
  cases n with
  | ofNat n =>
      refine ⟨⟨[], _, [], [], .none, digits, .none, .none⟩, ?_, rfl, rfl, ?_⟩
      · simp [Spelling.chars, Int.toString_eq_repr, Int.repr, Nat.toList_repr]
      · have read := ofInteger?_append .none digits
        rw [counts] at read
        rw [Spelling.chars, List.append_nil, List.append_nil, read]
        rfl
  | negSucc n =>
      refine ⟨⟨['-'], _, [], [], .minus, digits, .none, .none⟩, ?_, rfl, rfl, ?_⟩
      · simp [Spelling.chars, Int.toString_eq_repr, Int.repr, Nat.toList_repr]
      · have read := ofInteger?_append .minus digits
        rw [counts] at read
        rw [Spelling.chars, List.append_nil, List.append_nil, read]
        rfl

end Decimal

/-! ## Floats -/

theorem point_mem_plain
    (layout : Layout)
    (digits : List Char)
    (leading : Int) :
    '.' ∈ layout.plain digits leading := by
  rw [Layout.plain]
  split <;> simp

theorem mark_mem_scientific
    (layout : Layout)
    (digits : List Char)
    (leading : Int) :
    layout.exponentMark ∈ layout.scientific digits leading := by
  simp [Layout.scientific]

/-- The text of a finite float has a point or an exponent, so it is not that of
an integer. -/
theorem point_or_mark_mem_floatText
    {x : Float}
    (finite : x.isFinite) :
    '.' ∈ (floatText x).toList ∨ 'e' ∈ (floatText x).toList := by
  have magnitude : ∀ mantissa exponent,
      '.' ∈ magnitudeText mantissa exponent ∨
        'e' ∈ magnitudeText mantissa exponent := by
    intro mantissa exponent
    rw [magnitudeText]
    split
    · simp
    · simp only [Layout.positive]
      split
      · exact Or.inl (point_mem_plain _ _ _)
      · exact Or.inr (mark_mem_scientific valueLayout _ _)
  have signedText : ∀ negative mantissa exponent,
      Binary.ofFloat x = .finite negative mantissa exponent →
        '.' ∈ (floatText x).toList ∨ 'e' ∈ (floatText x).toList := by
    intro negative mantissa exponent parts
    rw [floatText, parts]
    cases negative <;> simpa using magnitude mantissa exponent
  simp only [Float.isFinite, Float.Model.isFinite] at finite
  cases unpacked : x.toModel.unpack with
  | notANumber =>
      rw [unpacked] at finite
      cases finite
  | infinity =>
      rw [unpacked] at finite
      cases finite
  | zero sign => exact signedText _ _ _ (by rw [Binary.ofFloat, unpacked])
  | finite sign mantissa exponent =>
      exact signedText _ _ _ (by rw [Binary.ofFloat, unpacked])

/-- If the text of a finite float is read at all, it is a spelling with a
fraction or an exponent. -/
theorem exists_spelling_of_float
    {x y : Float}
    (finite : x.isFinite)
    (reads : floatOfChars? (floatText x).toList = some y) :
    ∃ spelling : Spelling,
      spelling.chars = (floatText x).toList ∧
        (spelling.places ≠ [] ∨ spelling.power ≠ []) := by
  rcases Option.map_eq_some_iff.mp reads with ⟨decimal, read, _⟩
  rcases Decimal.exists_spelling read with ⟨spelling, same⟩
  refine ⟨spelling, same, ?_⟩
  by_cases noPlaces : spelling.places = []
  case neg => exact Or.inl noPlaces
  by_cases noPower : spelling.power = []
  case neg => exact Or.inr noPower
  -- signs and digits alone hold neither a point nor a mark
  have marked := point_or_mark_mem_floatText finite
  rw [← same, Spelling.chars, noPlaces, noPower, List.append_nil,
    List.append_nil] at marked
  have noMark : ∀ c, c ∈ spelling.sign ++ spelling.whole → c ≠ '.' ∧ c ≠ 'e' := by
    intro c isMember
    rcases List.mem_append.mp isMember with inSign | inWhole
    · rcases spelling.signed.mem inSign with rfl | rfl <;> decide
    · have range := isDecimal_iff.mp (spelling.digits.isDecimal c inWhole)
      constructor <;> rintro rfl <;> exact absurd range (by decide)
  rcases marked with isMember | isMember
  · exact absurd rfl (noMark _ isMember).1
  · exact absurd rfl (noMark _ isMember).2

end Formula.Number
