import Formula.Proofs.Number.Spelling
import Formula.Proofs.Token.Consumed

/-!
# Numbers of tokens

An integer and a float carry the number that they spell, and no other token
carries one.  What is scanned as a number with a fraction or an exponent is the
spelling of a number, so reading it cannot fail: among the faults of a token there
is none for a number that cannot be read.  There is one lemma for each scanner.
-/

namespace Formula

/-- The kind of a token and the number that it carries go together. -/
structure Numbered (kind : TokenKind) (literal : Option Numeral) : Prop where
  integer : (∃ n, literal = some (.int n)) ↔ kind = .integer
  float : (∃ x, literal = some (.float x)) ↔ kind = .float

/-- A token that is no number carries none. -/
theorem Numbered.none
    {kind : TokenKind}
    (notInteger : kind ≠ .integer)
    (notFloat : kind ≠ .float) :
    Numbered kind none where
  integer := ⟨nofun, fun isInteger => absurd isInteger notInteger⟩
  float := ⟨nofun, fun isFloat => absurd isFloat notFloat⟩

/-- A number is there for every token that should carry one. -/
theorem Numbered.isSome
    {kind : TokenKind}
    {literal : Option Numeral}
    (numbered : Numbered kind literal)
    (isNumber : kind = .integer ∨ kind = .float) :
    literal.isSome := by
  rcases isNumber with isInteger | isFloat
  · rcases numbered.integer.mpr isInteger with ⟨n, rfl⟩
    rfl
  · rcases numbered.float.mpr isFloat with ⟨x, rfl⟩
    rfl

namespace TokenKind

/-- The kinds that a token has by what it spells, other than numbers. -/
def isSpelled : TokenKind → Bool
  | unread | error | integer | float => false
  | _ => true

theorem isSpelled_of_isKeyword
    {kind : TokenKind}
    (isKeyword : kind.isKeyword) :
    kind.isSpelled := by
  cases kind <;> first | rfl | cases isKeyword

theorem symbols_isSpelled : ∀ entry ∈ symbols, entry.2.isSpelled := by
  decide

end TokenKind

theorem Numbered.of_isSpelled
    {kind : TokenKind}
    (isSpelled : kind.isSpelled) :
    Numbered kind Option.none := by
  refine .none ?_ ?_
  · rintro rfl
    cases isSpelled
  · rintro rfl
    cases isSpelled

namespace Formed

variable {lexeme text : List Char} {kind : TokenKind} {literal : Option Numeral}

/-- A token that is spelled out is a number with its value, or nothing of the
kind. -/
theorem kind_cases (formed : Formed lexeme kind text literal) :
    (∃ n, kind = .integer ∧ literal = some (.int n)) ∨
      (∃ x, kind = .float ∧ literal = some (.float x)) ∨
        (kind.isSpelled ∧ literal = none) := by
  cases formed with
  | integer n _ => exact .inl ⟨n, rfl, rfl⟩
  | float _ _ => exact .inr (.inl ⟨_, rfl, rfl⟩)
  | keyword _ reserved =>
      have isKeyword := TokenKind.isKeyword_of_mem_keywords _ reserved
      exact .inr (.inr ⟨TokenKind.isSpelled_of_isKeyword isKeyword, rfl⟩)
  | symbol isSymbol =>
      exact .inr (.inr ⟨TokenKind.symbols_isSpelled _ isSymbol, rfl⟩)
  | endOfInput => exact .inr (.inr ⟨rfl, rfl⟩)
  | identifier _ => exact .inr (.inr ⟨rfl, rfl⟩)
  | bareword _ => exact .inr (.inr ⟨rfl, rfl⟩)
  | string _ _ => exact .inr (.inr ⟨rfl, rfl⟩)

theorem numbered (formed : Formed lexeme kind text literal) :
    Numbered kind literal := by
  rcases formed.kind_cases with ⟨n, rfl, rfl⟩ | ⟨x, rfl, rfl⟩ | ⟨isSpelled, rfl⟩
  · exact ⟨⟨fun _ => rfl, fun _ => ⟨n, rfl⟩⟩, ⟨nofun, nofun⟩⟩
  · exact ⟨⟨nofun, nofun⟩, ⟨fun _ => rfl, fun _ => ⟨x, rfl⟩⟩⟩
  · exact .of_isSpelled isSpelled

/-- What is spelled out was read, and is well formed. -/
theorem kind_ne (formed : Formed lexeme kind text literal) :
    kind ≠ .unread ∧ kind ≠ .error := by
  rcases formed.kind_cases with ⟨n, rfl, _⟩ | ⟨x, rfl, _⟩ | ⟨isSpelled, _⟩
  · exact ⟨nofun, nofun⟩
  · exact ⟨nofun, nofun⟩
  · constructor <;> rintro rfl <;> cases isSpelled

end Formed

namespace Scanned

open Text Number

/-- A malformed token carries no number, and is not a number that could not be
read. -/
def Clean {σ : Type} (scanned : Scanned σ) : Prop :=
  ∀ fault, scanned.outcome = .error fault →
    scanned.literal = none ∧ ∀ text, fault ≠ .invalidNumber text

section

variable {σ : Type} {scanned : Scanned σ}

theorem Clean.formed
    {kind : TokenKind}
    (found : scanned.outcome = .ok kind) :
    Clean scanned := by
  intro fault failed
  rw [found] at failed
  cases failed

theorem Clean.malformed
    {fault : ScanError}
    (failed : scanned.outcome = .error fault)
    (noNumber : scanned.literal = none)
    (readable : ∀ text, fault ≠ .invalidNumber text) :
    Clean scanned := by
  intro fault' failed'
  obtain rfl := Except.error.inj (failed.symm.trans failed')
  exact ⟨noNumber, readable⟩

end

variable {σ : Type} [CharSource σ]

/-! ## Words, colors and strings -/

theorem word_clean
    (flags : Flags)
    (first : Char)
    (s : σ) :
    Clean (word flags first s) := by
  intro fault failed
  rw [word] at failed
  dsimp only at failed
  refine ⟨rfl, fun text isInvalid => ?_⟩
  subst isInvalid
  split at failed
  · cases failed
  split at failed
  · cases failed
  split at failed
  · cases failed
  · cases failed

theorem color_clean (s : σ) : Clean (color s) := by
  rw [color]
  dsimp only
  split
  · exact .formed rfl
  · exact .malformed rfl rfl (by rintro _ ⟨⟩)

theorem string_clean
    (quote : Char)
    (s : σ) :
    Clean (string quote s) := by
  rw [string]
  split
  case h_1 => exact .formed rfl
  case h_2 fault body rest found =>
    refine .malformed rfl rfl ?_
    rcases stringBody_fault (congrArg Prod.fst found) with rfl | ⟨c, rfl⟩
    · rintro _ ⟨⟩
    · rintro _ ⟨⟩

/-! ## Numbers -/

theorem radixNumber_clean
    (radix : Nat)
    (sign : Option Char)
    (s : σ) :
    Clean (radixNumber radix sign s) := by
  rw [radixNumber]
  dsimp only
  split
  · exact .formed rfl
  · exact .malformed rfl rfl (by rintro _ ⟨⟩)

omit [CharSource σ] in
theorem wholeNumber_clean
    (text : List Char)
    (s : σ) :
    Clean (wholeNumber text s) := by
  rw [wholeNumber]
  split
  · exact .formed rfl
  · exact .malformed rfl rfl (by rintro _ ⟨⟩)

omit [CharSource σ] in
/-- A spelling can always be read, so it is never the text of a malformed
number. -/
theorem floatNumber_clean
    (spelling : Spelling)
    (s : σ) :
    Clean (floatNumber spelling.chars s) := by
  rcases Decimal.exists_ofChars?_eq_some spelling with ⟨decimal, read⟩
  have reads : floatOfChars? spelling.chars = some decimal.toFloat := by
    rw [floatOfChars?, read]
    rfl
  rw [floatNumber, reads]
  exact .formed rfl

/-- What is read as a fraction is a point with digits behind it. -/
theorem fraction_places (s : Reader) : Places (fraction s).1 := by
  rcases s with ⟨past, rest⟩
  simp only [fraction, seesPlaces_eq]
  split
  case isFalse => exact .none
  case isTrue ahead =>
    rw [Bool.and_eq_true] at ahead
    rcases rest with _ | ⟨point, _ | ⟨lead, rest⟩⟩
    · cases ahead.1
    · cases ahead.2
    obtain rfl : point = '.' := eq_of_beq ahead.1
    have digit : isDecimal lead := ahead.2
    refine .some ⟨?_, fun c => Reader.of_mem_readWhile⟩
    simp [digit]

/-- A sign is read, or nothing. -/
theorem takeIf_signed (s : Reader) :
    Signed (CharSource.takeIf (fun c => c == '+' || c == '-') s).1.toList := by
  cases took : CharSource.takeIf (fun c => c == '+' || c == '-') s with
  | mk sign rest =>
      cases sign with
      | none => exact .none
      | some c =>
          have isSign := Reader.of_takeIf took
          simp only [Bool.or_eq_true, beq_iff_eq] at isSign
          rcases isSign with rfl | rfl
          · exact .plus
          · exact .minus

/-- Where a digit is ahead, there are digits to read. -/
theorem readWhile_digits_of_sees
    {s : Reader}
    (ahead : (CharSource.sees isDecimal s).1 = true) :
    Digits (CharSource.readWhile isDecimal s).1 := by
  refine ⟨?_, fun c => Reader.of_mem_readWhile⟩
  rcases s with ⟨past, _ | ⟨lead, rest⟩⟩
  · cases ahead
  · have digit : isDecimal lead := ahead
    simp [digit]

/-- What is read as an exponent is a letter with digits behind it. -/
theorem exponent_power
    (s : Reader)
    {power : List Char}
    (found : (exponent s).1 = .ok power) :
    Power power := by
  rw [exponent] at found
  simp only [Reader.snd_sees, Reader.snd_mark] at found
  split at found
  case isFalse =>
    obtain rfl := Except.ok.inj found
    exact .none
  case isTrue ahead =>
    have signed := takeIf_signed (CharSource.take s).2
    split at found
    case isTrue digit =>
      obtain rfl := Except.ok.inj found
      rcases s with ⟨past, _ | ⟨letter, rest⟩⟩
      · cases ahead
      have isLetter : letter = 'e' ∨ letter = 'E' := by simpa using ahead
      exact .some isLetter signed (readWhile_digits_of_sees digit)
    case isFalse =>
      split at found
      · obtain rfl := Except.ok.inj found
        exact .none
      · cases found

theorem decimalNumber_clean
    {sign : List Char}
    (signed : Signed sign)
    {lead : Char}
    (digit : isDecimal lead)
    (s : Reader) :
    Clean (decimalNumber (sign ++ [lead]) s) := by
  have belongs : ∀ c ∈ (CharSource.readWhile isDecimal s).1, isDecimal c :=
    fun c => Reader.of_mem_readWhile
  have hasPlaces := fraction_places (CharSource.readWhile isDecimal s).2
  rcases exponent_reads (fraction (CharSource.readWhile isDecimal s).2).2 with
    ⟨power, found, _⟩
  have hasPower := exponent_power _ found
  have outcome := Prod.ext (y := (Except.ok power, _)) found rfl
  rw [decimalNumber]
  dsimp only
  rw [outcome]
  dsimp only
  split
  case isTrue => exact wholeNumber_clean _ _
  case isFalse =>
    have digits : Digits (lead :: (CharSource.readWhile isDecimal s).1) :=
      ⟨List.cons_ne_nil _ _, List.forall_mem_cons.mpr ⟨digit, belongs⟩⟩
    have text : sign ++ [lead] ++ (CharSource.readWhile isDecimal s).1 ++
        (fraction (CharSource.readWhile isDecimal s).2).1 ++ power =
        Spelling.chars
          ⟨sign, _, _, power, signed, digits, hasPlaces, hasPower⟩ := by
      simp [Spelling.chars]
    rw [text]
    exact floatNumber_clean _ _

theorem numberFrom_clean
    (sign : Option Char)
    (signed : Signed sign.toList)
    {lead : Char}
    (digit : isDecimal lead)
    (s : Reader) :
    Clean (numberFrom sign lead s) := by
  rw [numberFrom]
  split
  case isFalse => exact decimalNumber_clean signed digit s
  case isTrue =>
    split
    · exact radixNumber_clean _ sign _
    · exact decimalNumber_clean signed digit _

/-- A number is only looked for where there is a digit, behind a sign or not. -/
theorem number_clean
    {first : Char}
    {s : Reader}
    (starts : isDecimal first ∨
      (first = '+' ∨ first = '-') ∧ (CharSource.sees isDecimal s).1 = true) :
    Clean (number first s) := by
  rw [number]
  split
  case isTrue digit => exact numberFrom_clean none .none digit s
  case isFalse notDigit =>
    rcases starts with digit | ⟨isSign, ahead⟩
    · exact absurd digit notDigit
    rcases s with ⟨past, _ | ⟨lead, rest⟩⟩
    · cases ahead
    rw [Reader.source_next_cons]
    have digit : isDecimal lead := ahead
    rcases isSign with rfl | rfl
    · exact numberFrom_clean (some '+') .plus digit _
    · exact numberFrom_clean (some '-') .minus digit _

/-! ## Symbols -/

theorem double_clean
    (alone : TokenKind)
    (second : Char)
    (both : TokenKind)
    (first : Char)
    (s : σ) :
    Clean (double alone second both first s) := by
  rw [double]
  split <;> exact .formed rfl

theorem less_clean
    (first : Char)
    (s : σ) :
    Clean (less first s) := by
  rw [less]
  split
  · split <;> exact .formed rfl
  · exact double_clean _ _ _ _ _

theorem symbol_clean
    (first : Char)
    (s : σ) :
    Clean (symbol first s) := by
  rw [symbol.eq_def]
  split
  case h_15 => exact less_clean _ s
  case h_23 => exact .malformed rfl rfl (by rintro _ ⟨⟩)
  all_goals first
    | exact .formed rfl
    | exact double_clean _ _ _ _ s

/-! ## All tokens -/

theorem colon_clean (s : σ) : Clean (colon s) := by
  rw [colon]
  split
  · exact .formed rfl
  · exact symbol_clean ':' _

theorem sign_clean
    (flags : Flags)
    {first : Char}
    (isSign : first = '+' ∨ first = '-')
    (s : Reader) :
    Clean (sign flags first s) := by
  rw [sign]
  split
  case isTrue => exact symbol_clean first s
  case isFalse =>
    have stays := Reader.snd_sees isDecimal s
    split <;> rename_i seen <;> rw [seen] at stays <;> obtain rfl := stays
    · exact number_clean (.inr ⟨isSign, congrArg Prod.fst seen⟩)
    · exact symbol_clean first _

/-- No malformed token carries a number or is one that could not be read. -/
theorem lex_clean
    (flags : Flags)
    (start : Reader) :
    Clean (lex flags start) := by
  rcases start with ⟨past, _ | ⟨c, rest⟩⟩
  · exact .formed rfl
  rw [lex_cons]
  split
  · exact string_clean c _
  split
  · exact colon_clean _
  split
  · exact color_clean _
  split
  case isTrue isSign => exact sign_clean flags isSign _
  split
  case isTrue digit => exact number_clean (.inl digit)
  split
  · exact word_clean flags c _
  · exact symbol_clean c _

/-- A token that is not malformed is spelled by some lexeme. -/
theorem formed_of_outcome
    {flags : Flags}
    {start : Reader}
    {kind : TokenKind}
    (found : (lex flags start).outcome = .ok kind) :
    ∃ lexeme,
      Formed lexeme kind (lex flags start).text (lex flags start).literal := by
  rcases start with ⟨past, _ | ⟨c, rest⟩⟩
  · rw [lex_nil] at found ⊢
    obtain rfl := Except.ok.inj found
    exact ⟨[], .endOfInput⟩
  · rcases lex_faithful flags past rest c with ⟨chars, _, formed⟩
    exact ⟨c :: chars, formed kind found⟩

end Scanned

end Formula
