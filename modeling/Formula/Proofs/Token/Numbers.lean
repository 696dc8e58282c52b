import Formula.Proofs.Number.Longest
import Formula.Proofs.Token.Numerals

/-!
# How numbers are scanned

A number is scanned part by part: its sign, its digits, and then a fraction
and an exponent if they are there, or else the digits of another base.  If
none of the parts goes on in what follows, a spelling is scanned as one
token up to its end.  This is so for the longest number in front of a text,
and for a number that stands apart.
-/

namespace Formula

open Text Number

/-- A spelling does not go on in what stands apart from it. -/
theorem Number.Spelling.Ends.of_apart
    {spelling : Spelling}
    {rest : List Char}
    (apart : Apart rest) :
    spelling.Ends rest where
  noDigit := apart.any_eq_false fun _ digit => .inl (isNameNext_of_isDecimal digit)
  noPlaces _ _ := by
    rintro part behind rfl hasPlaces
    cases hasPlaces with
    | none => rfl
    | some _ => exact absurd rfl (apart '.' rfl).2
  noPower _ := by
    rintro part behind rfl hasPower
    cases hasPower with
    | none => rfl
    | @some letter _ _ isLetter _ _ =>
        have notName := (apart letter rfl).1
        rcases isLetter with rfl | rfl <;> exact absurd notName (by decide)
  noRadix _ _ _ letter radix isLetter isBase := by
    have inName := isNameNext_of_isNameFirst (isNameFirst_of_mem_bases _ isBase)
    rw [(apart letter isLetter).1] at inName
    cases inName

namespace Scanned

variable {flags : Flags} {past rest : List Char}

/-! ## Parts -/

/-- A fraction that is not there is not read. -/
theorem fraction_of_lacks (lacks : Lacks Places rest) :
    fraction (⟨past, rest⟩ : Reader) = ([], ⟨past, rest⟩) := by
  have reads := fraction_reads ⟨past, rest⟩
  have nothing := lacks _ _ reads.rest_eq (fraction_places _)
  rw [nothing] at reads
  exact Prod.ext nothing reads.eq_of_nil

/-- What digits are followed by is none of them. -/
theorem readWhile_digits
    (past : List Char)
    {run : List Char}
    (digits : Digits run)
    (ends : rest[0]?.any isDecimal = false) :
    CharSource.readWhile isDecimal (⟨past, run ++ rest⟩ : Reader) =
      (run, ⟨run.reverse ++ past, rest⟩) :=
  Reader.readWhile_append past rest digits.isDecimal ends

theorem fraction_of_places
    {text : List Char}
    (places : Places text)
    (noDigit : rest[0]?.any isDecimal = false)
    (noPlaces : text = [] → Lacks Places rest) :
    fraction (⟨past, text ++ rest⟩ : Reader) =
      (text, ⟨text.reverse ++ past, rest⟩) := by
  cases places with
  | none => exact fraction_of_lacks (noPlaces rfl)
  | @some run digits =>
      have read := readWhile_digits ('.' :: past) digits noDigit
      cases run with
      | nil => exact absurd rfl digits.nonempty
      | cons c run =>
          have digit : isDecimal c := digits.isDecimal c List.mem_cons_self
          simp only [List.cons_append] at read ⊢
          simp only [fraction, seesPlaces_eq, List.getElem?_cons_zero,
            List.getElem?_cons_succ, Option.any_some, beq_self_eq_true, digit,
            Bool.and_self,
            ↓reduceIte, Reader.take_cons, read]
          simp

/-- In front of digits a sign is read if there is one. -/
theorem takeIf_of_signed
    (past rest : List Char)
    {sign run : List Char}
    (signed : Signed sign)
    (digits : Digits run) :
    CharSource.takeIf (fun c => c == '+' || c == '-')
      (⟨past, sign ++ (run ++ rest)⟩ : Reader) =
        (sign[0]?, ⟨sign.reverse ++ past, run ++ rest⟩) := by
  cases signed with
  | plus => exact Reader.takeIf_cons_pos past _ rfl
  | minus => exact Reader.takeIf_cons_pos past _ rfl
  | none =>
      refine Reader.takeIf_neg past _ ?_
      cases run with
      | nil => exact absurd rfl digits.nonempty
      | cons c run =>
          have range := isDecimal_iff.mp (digits.isDecimal c List.mem_cons_self)
          rw [List.nil_append, List.cons_append, List.getElem?_cons_zero,
            Option.any_some, ← Bool.not_eq_true]
          intro isSign
          simp only [Bool.or_eq_true, beq_iff_eq] at isSign
          rcases isSign with rfl | rfl <;> exact absurd range (by decide)

theorem any_isDecimal_of_digits
    (rest : List Char)
    {run : List Char}
    (digits : Digits run) :
    (run ++ rest)[0]?.any isDecimal = true := by
  cases run with
  | nil => exact absurd rfl digits.nonempty
  | cons c run => exact digits.isDecimal c List.mem_cons_self

/-- An exponent that is not there is not read. -/
theorem exponent_of_lacks (lacks : Lacks Power rest) :
    exponent (⟨past, rest⟩ : Reader) = (.ok [], ⟨past, rest⟩) := by
  rcases exponent_reads ⟨past, rest⟩ with ⟨power, found, reads⟩
  obtain rfl := lacks _ _ reads.rest_eq (exponent_power _ found)
  exact Prod.ext found reads.eq_of_nil

theorem exponent_of_power
    {text : List Char}
    (power : Power text)
    (noDigit : rest[0]?.any isDecimal = false)
    (noPower : text = [] → Lacks Power rest) :
    exponent (⟨past, text ++ rest⟩ : Reader) =
      (.ok text, ⟨text.reverse ++ past, rest⟩) := by
  cases power with
  | none => exact exponent_of_lacks (noPower rfl)
  | @some letter sign run isLetter signed digits =>
      have letters : (letter == 'e' || letter == 'E') = true := by
        simpa using isLetter
      have took := takeIf_of_signed (letter :: past) rest signed digits
      have sees := any_isDecimal_of_digits rest digits
      have read := readWhile_digits (sign.reverse ++ letter :: past) digits noDigit
      have marked :
          CharSource.mark (⟨past, letter :: (sign ++ (run ++ rest))⟩ : Reader) =
            (Reader.mark ⟨past, letter :: (sign ++ (run ++ rest))⟩,
              ⟨past, letter :: (sign ++ (run ++ rest))⟩) :=
        rfl
      rw [List.cons_append, List.append_assoc, exponent]
      simp only [Reader.sees_eq, List.getElem?_cons_zero, Option.any_some, letters,
        ↓reduceIte, marked, Reader.take_cons, took, sees, read]
      cases signed <;> simp

/-! ## Parts in front of parts -/

theorem noDigit_of_power
    {power : List Char}
    (hasPower : Power power)
    (noDigit : rest[0]?.any isDecimal = false) :
    (power ++ rest)[0]?.any isDecimal = false := by
  cases hasPower with
  | none => exact noDigit
  | some isLetter _ _ => rcases isLetter with rfl | rfl <;> rfl

theorem noDigit_of_places
    {places : List Char}
    (hasPlaces : Places places)
    (noDigit : rest[0]?.any isDecimal = false) :
    (places ++ rest)[0]?.any isDecimal = false := by
  cases hasPlaces with
  | none => exact noDigit
  | some _ => rfl

/-- An exponent is no fraction. -/
theorem lacks_places_of_power
    {power : List Char}
    (hasPower : Power power)
    (noPlaces : power = [] → Lacks Places rest) :
    Lacks Places (power ++ rest) := by
  cases hasPower with
  | none => exact noPlaces rfl
  | some isLetter _ _ =>
      intro part behind isRest hasPlaces
      cases hasPlaces with
      | none => rfl
      | some _ =>
          obtain rfl := (List.cons.inj isRest).1
          exact absurd isLetter (by decide)

/-- The number that starts with `head` and goes on with the parts of a spelling. -/
theorem decimalNumber_append
    (head : List Char)
    {run places power : List Char}
    (belongs : ∀ c ∈ run, isDecimal c)
    (hasPlaces : Places places)
    (hasPower : Power power)
    (noDigit : rest[0]?.any isDecimal = false)
    (noPlaces : places = [] → power = [] → Lacks Places rest)
    (noPower : power = [] → Lacks Power rest) :
    decimalNumber head (⟨past, run ++ (places ++ (power ++ rest))⟩ : Reader) =
      if places.isEmpty && power.isEmpty then
        wholeNumber (head ++ run ++ places ++ power)
          ⟨power.reverse ++ (places.reverse ++ (run.reverse ++ past)), rest⟩
      else
        floatNumber (head ++ run ++ places ++ power)
          ⟨power.reverse ++ (places.reverse ++ (run.reverse ++ past)), rest⟩ := by
  have behindPlaces := noDigit_of_power hasPower noDigit
  have behindRun := noDigit_of_places hasPlaces behindPlaces
  rw [decimalNumber, Reader.readWhile_append past _ belongs behindRun]
  dsimp only
  rw [fraction_of_places hasPlaces behindPlaces
    fun isEmpty => lacks_places_of_power hasPower (noPlaces isEmpty)]
  dsimp only
  rw [exponent_of_power hasPower noDigit noPower]

/-! ## Other bases -/

/-- A base is seen if its letter is next, and one of its digits behind it. -/
theorem seesRadix_eq (s : Reader) :
    seesRadix s =
      ((s.rest[0]?.bind radix?).filter fun radix =>
        s.rest[1]?.any (isDigit radix), s) := by
  rcases s with ⟨past, chars⟩
  rw [seesRadix, Reader.source_peek]
  cases chars[0]? with
  | none => rfl
  | some letter =>
      dsimp only
      rw [Option.bind_some]
      cases radix? letter with
      | none => rfl
      | some radix =>
          rw [Option.filter_some]
          simp only [Reader.seesNext_eq]

theorem radix?_eq_some_iff
    {letter : Char}
    {radix : Nat} :
    radix? letter = some radix ↔ (letter, radix) ∈ bases := by
  constructor
  · intro found
    rw [radix?.eq_def] at found
    split at found <;> cases found <;> decide
  · intro isBase
    have known : ∀ base ∈ bases, radix? base.1 = some base.2 := by decide
    exact known _ isBase

/-- A base is not seen where its letter, or a digit behind it, is missing. -/
theorem seesRadix_eq_none
    {chars : List Char}
    (noRadix : ∀ letter radix, chars[0]? = some letter → (letter, radix) ∈ bases →
      chars[1]?.any (isDigit radix) = false) :
    seesRadix (⟨past, chars⟩ : Reader) = (none, ⟨past, chars⟩) := by
  rw [seesRadix_eq]
  refine Prod.ext (Option.eq_none_iff_forall_ne_some.mpr fun radix found => ?_) rfl
  rcases Option.filter_eq_some_iff.mp found with ⟨isRadix, digit⟩
  rcases Option.bind_eq_some_iff.mp isRadix with ⟨letter, isLetter, isBase⟩
  rw [noRadix letter radix isLetter (radix?_eq_some_iff.mp isBase)] at digit
  cases digit

/-- Behind the first digit of a spelling no base is seen. -/
theorem seesRadix_append
    {run places power : List Char}
    (belongs : ∀ c ∈ run, isDecimal c)
    (hasPlaces : Places places)
    (hasPower : Power power)
    (noRadix : run = [] → places = [] → power = [] →
      ∀ letter radix, rest[0]? = some letter → (letter, radix) ∈ bases →
        rest[1]?.any (isDigit radix) = false) :
    seesRadix (⟨past, run ++ (places ++ (power ++ rest))⟩ : Reader) =
      (none, ⟨past, run ++ (places ++ (power ++ rest))⟩) := by
  refine seesRadix_eq_none fun letter radix isLetter isBase => ?_
  have notBase : ∀ c, radix? c = none → letter ≠ c := by
    rintro c isNone rfl
    rw [radix?_eq_some_iff.mpr isBase] at isNone
    cases isNone
  cases run with
  | cons c run =>
      obtain rfl := Option.some.inj isLetter
      have isFirst := isNameFirst_of_mem_bases _ isBase
      rw [isNameFirst_of_isDecimal (belongs c List.mem_cons_self)] at isFirst
      cases isFirst
  | nil =>
      cases hasPlaces with
      | some _ => exact absurd (Option.some.inj isLetter).symm (notBase '.' rfl)
      | none =>
          cases hasPower with
          | none => exact noRadix rfl rfl rfl letter radix isLetter isBase
          | some isMark _ _ =>
              obtain rfl := Option.some.inj isLetter
              rcases isMark with rfl | rfl
              · exact absurd rfl (notBase 'e' rfl)
              · exact absurd rfl (notBase 'E' rfl)

/-! ## All numbers -/

/-- A digit starts a number. -/
theorem lex_digit
    {lead : Char}
    (digit : isDecimal lead) :
    lex flags (⟨past, lead :: rest⟩ : Reader) =
      numberFrom none lead ⟨lead :: past, rest⟩ := by
  have range := isDecimal_iff.mp digit
  have ne : ∀ c, ¬ (48 ≤ c.toNat ∧ c.toNat ≤ 57) → lead ≠ c := by
    rintro c outside rfl
    exact outside range
  rw [lex_cons, if_neg (by simp [ne '\'' (by decide), ne '"' (by decide)]),
    if_neg (ne ':' (by decide)), if_neg (ne '#' (by decide)),
    if_neg (by simp [ne '+' (by decide), ne '-' (by decide)]), if_pos digit,
    number, if_pos digit]

/-- So does a sign in front of a digit, where a sign may belong to a number. -/
theorem lex_signed
    {first lead : Char}
    (isSign : first = '+' ∨ first = '-')
    (digit : isDecimal lead)
    (notSplit : flags.splitSigns = false) :
    lex flags (⟨past, first :: lead :: rest⟩ : Reader) =
      numberFrom (some first) lead ⟨lead :: first :: past, rest⟩ := by
  have sees : CharSource.sees isDecimal (⟨first :: past, lead :: rest⟩ : Reader) =
      (true, ⟨first :: past, lead :: rest⟩) := by
    simp [digit]
  rw [lex_cons]
  rcases isSign with rfl | rfl <;>
    rw [if_neg (by decide), if_neg (by decide), if_neg (by decide),
      if_pos (by decide), sign, notSplit, if_neg (by decide), sees] <;>
    rfl

section

variable {sign : List Char}

/-- A number starts with a digit, or with a sign in front of one. -/
theorem lex_sign_append
    (signed : Signed sign)
    (mayHaveSign : sign = [] ∨ flags.splitSigns = false)
    {lead : Char}
    (digit : isDecimal lead) :
    lex flags (⟨past, sign ++ lead :: rest⟩ : Reader) =
      numberFrom sign[0]? lead ⟨lead :: (sign.reverse ++ past), rest⟩ := by
  cases signed with
  | none => exact lex_digit digit
  | plus =>
      exact lex_signed (.inl rfl) digit
        (mayHaveSign.resolve_left (List.cons_ne_nil _ _))
  | minus =>
      exact lex_signed (.inr rfl) digit
        (mayHaveSign.resolve_left (List.cons_ne_nil _ _))

theorem toList_getElem?_of_signed
    (signed : Signed sign) :
    sign[0]?.toList = sign := by
  cases signed <;> rfl

/-- A spelling that does not go on in what follows it is scanned as one number. -/
theorem lex_spelling
    {spelling : Spelling}
    (ends : spelling.Ends rest)
    (mayHaveSign : spelling.sign = [] ∨ flags.splitSigns = false) :
    lex flags (⟨past, spelling.chars ++ rest⟩ : Reader) =
      if spelling.places.isEmpty && spelling.power.isEmpty then
        wholeNumber spelling.chars ⟨spelling.chars.reverse ++ past, rest⟩
      else
        floatNumber spelling.chars ⟨spelling.chars.reverse ++ past, rest⟩ := by
  rcases spelling with
    ⟨sign, whole, places, power, signed, digits, hasPlaces, hasPower⟩
  rcases whole with _ | ⟨lead, run⟩
  · exact absurd rfl digits.nonempty
  have digit : isDecimal lead := digits.isDecimal lead List.mem_cons_self
  have belongs : ∀ c ∈ run, isDecimal c :=
    fun c isMember => digits.isDecimal c (List.mem_cons_of_mem lead isMember)
  let start : Reader :=
    ⟨lead :: (sign.reverse ++ past), run ++ (places ++ (power ++ rest))⟩
  have decimal :
      numberFrom sign[0]? lead start = decimalNumber (sign ++ [lead]) start := by
    rw [numberFrom, toList_getElem?_of_signed signed]
    split
    case isFalse => rfl
    case isTrue isZero =>
      have noRadix : seesRadix start = (none, start) :=
        seesRadix_append belongs hasPlaces hasPower fun isEmpty =>
          ends.noRadix (List.cons_eq_cons.mpr ⟨isZero, isEmpty⟩)
      rw [noRadix]
  have text : Spelling.chars
      ⟨sign, lead :: run, places, power, signed, digits, hasPlaces, hasPower⟩
        ++ rest =
      sign ++ lead :: (run ++ (places ++ (power ++ rest))) := by
    simp [Spelling.chars]
  rw [text, lex_sign_append signed mayHaveSign digit, decimal,
    decimalNumber_append (sign ++ [lead]) belongs hasPlaces hasPower
      ends.noDigit ends.noPlaces ends.noPower]
  simp [Spelling.chars]

/-- A number of another base is scanned up to its last digit. -/
theorem lex_radix
    (signed : Signed sign)
    (mayHaveSign : sign = [] ∨ flags.splitSigns = false)
    {letter : Char}
    {radix : Nat}
    (isBase : (letter, radix) ∈ bases)
    {digits : List Char}
    (nonempty : digits ≠ [])
    (belongs : ∀ c ∈ digits, isDigit radix c)
    (ends : rest[0]?.any (isDigit radix) = false) :
    lex flags (⟨past, sign ++ '0' :: letter :: (digits ++ rest)⟩ : Reader) =
      if ofDigits radix digits < UInt64.size then
        { outcome := .ok .integer
          text := sign ++ '0' :: letter :: digits
          literal :=
            some (.int (if sign = ['-'] then -.ofNat (ofDigits radix digits)
              else .ofNat (ofDigits radix digits)))
          source :=
            ⟨digits.reverse ++ letter :: '0' :: (sign.reverse ++ past), rest⟩ }
      else
        { outcome := .error
            (.integerOverflow (String.ofList (sign ++ '0' :: letter :: digits)))
          text := sign ++ '0' :: letter :: digits
          source := ⟨digits.reverse ++ letter :: '0' :: (sign.reverse ++ past),
            rest⟩ } := by
  rw [lex_sign_append signed mayHaveSign rfl, numberFrom, if_pos rfl, seesRadix_eq]
  have isRadix := radix?_eq_some_iff.mpr isBase
  have digit : (digits ++ rest)[0]?.any (isDigit radix) = true := by
    cases digits with
    | nil => exact absurd rfl nonempty
    | cons c digits => exact belongs c List.mem_cons_self
  have seen : ((letter :: (digits ++ rest))[0]?.bind radix?).filter
      (fun radix => (letter :: (digits ++ rest))[1]?.any (isDigit radix)) =
        some radix := by
    simp [isRadix, digit]
  have isMinus : sign[0]? = some '-' ↔ sign = ['-'] := by
    cases signed <;> simp
  rw [seen]
  dsimp only
  rw [radixNumber, Reader.take_cons]
  dsimp only
  rw [Reader.readWhile_append _ _ belongs ends, toList_getElem?_of_signed signed]
  simp [isMinus]

end

/-! ## Longest numbers -/

/-- A number starts here: a digit, or where a sign may belong to a number, a sign
in front of one. -/
def StartsNumber (flags : Flags) (text : List Char) : Prop :=
  ∃ sign lead rest, Signed sign ∧ (sign = [] ∨ flags.splitSigns = false) ∧
    isDecimal lead ∧
      text = sign ++ lead :: rest

/-- The token of a number, by what the number means. -/
def ofNumber
    {σ : Type}
    (lexeme : List Char)
    (numeral : Option Numeral)
    (s : σ) :
    Scanned σ :=
  match numeral with
  | some (.int n) =>
    { outcome := .ok .integer, text := lexeme, literal := some (.int n),
      source := s }
  | some (.float x) =>
    { outcome := .ok .float, text := lexeme, literal := some (.float x),
      source := s }
  | none =>
    { outcome := .error (.integerOverflow (String.ofList lexeme)), text := lexeme,
      source := s }

section

variable {text lexeme behind : List Char}

theorem StartsNumber.exists_longest (starts : StartsNumber flags text) :
    ∃ lexeme behind, LongestPrefix NumberText text lexeme behind := by
  rcases starts with ⟨sign, lead, rest, signed, _, digit, rfl⟩
  have isNumber := NumberText.decimal
    ⟨sign, [lead], [], [], signed, .singleton digit, .none, .none⟩
  have isText : sign ++ lead :: rest = (sign ++ [lead]) ++ rest := by simp
  have chars : sign ++ [lead] = Spelling.chars
      ⟨sign, [lead], [], [], signed, .singleton digit, .none, .none⟩ := by
    simp [Spelling.chars]
  exact exists_longestPrefix (isText.trans (congrArg (· ++ rest) chars)) isNumber

/-- A number has a sign only where it may. -/
theorem StartsNumber.mayHaveSign
    (starts : StartsNumber flags text)
    {sign rest : List Char}
    {lead : Char}
    (signed : Signed sign)
    (digit : isDecimal lead)
    (isText : text = sign ++ lead :: rest) :
    sign = [] ∨ flags.splitSigns = false := by
  rcases starts with ⟨sign', lead', rest', signed', mayHaveSign, digit', isText'⟩
  obtain rfl := signed.append_inj signed' digit digit' (isText.symm.trans isText')
  exact mayHaveSign

theorem StartsNumber.mayHaveSign_of_spelling
    {spelling : Spelling}
    (starts : StartsNumber flags (spelling.chars ++ behind)) :
    spelling.sign = [] ∨ flags.splitSigns = false := by
  rcases spelling with ⟨sign, whole, places, power, signed, digits, _, _⟩
  rcases whole with _ | ⟨lead, run⟩
  · exact absurd rfl digits.nonempty
  · refine starts.mayHaveSign signed (digits.isDecimal lead List.mem_cons_self)
      (?_ : _ = sign ++ lead :: (run ++ (places ++ (power ++ behind))))
    simp [Spelling.chars]

/-- A whole number is an integer if a word holds it. -/
theorem wholeNumber_of_means
    {σ : Type}
    {sign run : List Char}
    (signed : Signed sign)
    (digits : Digits run)
    {numeral : Option Numeral}
    (means : numeral =
      (word? (Binary.signed (sign = ['-']) (ofDigits 10 run))).map Numeral.int)
    (s : σ) :
    wholeNumber (sign ++ run) s = ofNumber (sign ++ run) numeral s := by
  rw [wholeNumber, Decimal.ofInteger?_append signed digits, Option.bind_some,
    means]
  cases word? (Binary.signed (sign = ['-']) (ofDigits 10 run)) <;> rfl

/-- The longest number in front of a text is its first token, with what it
means. -/
theorem lex_of_means
    (starts : StartsNumber flags text)
    (longest : LongestPrefix NumberText text lexeme behind)
    {numeral : Option Numeral}
    (means : Means lexeme numeral)
    (past : List Char) :
    lex flags (⟨past, text⟩ : Reader) =
      ofNumber lexeme numeral ⟨lexeme.reverse ++ past, behind⟩ := by
  obtain rfl := longest.text_eq
  have whole : ∀ {sign run}, Signed sign → Digits run → lexeme = sign ++ run →
      lex flags (⟨past, lexeme ++ behind⟩ : Reader) =
        wholeNumber (sign ++ run) ⟨lexeme.reverse ++ past, behind⟩ := by
    rintro sign run signed digits rfl
    let spelling : Spelling := ⟨sign, run, [], [], signed, digits, .none, .none⟩
    have chars : spelling.chars = sign ++ run := by simp [spelling, Spelling.chars]
    rw [← chars] at longest starts ⊢
    exact lex_spelling (Spelling.ends_of_longest longest)
      starts.mayHaveSign_of_spelling
  have radix :
      ∀ {sign digits letter radix}, Signed sign → (letter, radix) ∈ bases →
      digits ≠ [] → (∀ c ∈ digits, isDigit radix c) →
        lexeme = sign ++ '0' :: letter :: digits →
          lex flags (⟨past, lexeme ++ behind⟩ : Reader) =
            if ofDigits radix digits < UInt64.size then
              ofNumber lexeme
                (some (.int (if sign = ['-'] then -.ofNat (ofDigits radix digits)
                else .ofNat (ofDigits radix digits))))
                ⟨lexeme.reverse ++ past, behind⟩
            else
              ofNumber lexeme none ⟨lexeme.reverse ++ past, behind⟩ := by
    rintro sign digits letter radix signed isBase nonempty belongs rfl
    have ends := NumberText.noDigit_of_longest longest signed isBase belongs
    have isText : sign ++ '0' :: letter :: digits ++ behind =
        sign ++ '0' :: (letter :: (digits ++ behind)) := by
      simp
    have zero : isDecimal '0' := rfl
    rw [isText,
      lex_radix signed (starts.mayHaveSign signed zero isText) isBase
        nonempty belongs ends]
    simp [ofNumber]
  cases means with
  | whole signed digits isValue =>
      rw [whole signed digits rfl]
      exact wholeNumber_of_means signed digits
        (by rw [word?_eq_some_iff.mpr isValue]; rfl) _
  | @tooLarge sign run signed digits tooLarge =>
      rw [whole signed digits rfl]
      refine wholeNumber_of_means signed digits ?_ _
      have outside :
          ¬ (Int64.minValue.toInt ≤
            Binary.signed (sign = ['-']) (ofDigits 10 run) ∧
              Binary.signed (sign = ['-']) (ofDigits 10 run) ≤
                Int64.maxValue.toInt) := by
        omega
      rw [word?, if_neg outside]
      rfl
  | @radix sign digits letter base n signed isBase nonempty belongs fits isValue =>
      have isWord : n = if sign = ['-'] then -.ofNat (ofDigits base digits)
          else .ofNat (ofDigits base digits) := by
        rw [← Int64.toInt_inj, isValue, Binary.signed]
        by_cases isMinus : sign = ['-']
        · simp [isMinus, Int64.toInt_ofNat']
        · simp [isMinus, Int64.toInt_ofNat']
      rw [radix signed isBase nonempty belongs rfl, if_pos fits, ← isWord]
  | radixTooLarge signed isBase nonempty belongs tooLarge =>
      rw [radix signed isBase nonempty belongs rfl,
        if_neg (Nat.not_lt.mpr tooLarge)]
  | @float spelling x isFloat read =>
      have notWhole :
          (spelling.places.isEmpty && spelling.power.isEmpty) = false := by
        rw [← Bool.not_eq_true, Bool.and_eq_true, List.isEmpty_iff,
          List.isEmpty_iff]
        rintro ⟨noPlaces, noPower⟩
        exact isFloat.elim (· noPlaces) (· noPower)
      rw [lex_spelling (Spelling.ends_of_longest longest)
        starts.mayHaveSign_of_spelling,
        notWhole, if_neg Bool.false_ne_true, floatNumber, read]
      rfl

end

end Scanned

end Formula
