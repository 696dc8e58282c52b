import Formula.Number.Decimal
import Formula.Number.Word
import Formula.Text.Quoted
import Formula.Token.Basic
import Formula.Token.Error
import Formula.Token.Flags

/-!
# Scanning one token

`lex` reads one token from a source that stands at its first character.  Each
kind of token has a scanner of its own, which returns what it read as
`Scanned`, whether it is well formed or not.
-/

namespace Formula

open CharSource Text Number

/-- What reading one token comes to: its kind or its fault, its text, the number
it spells, and the source behind it. -/
structure Scanned (σ : Type) where
  outcome : Except ScanError TokenKind
  text : List Char := []
  literal : Option Numeral := none
  source : σ

namespace Scanned

variable {σ : Type} [CharSource σ]

/-! ## Words and colors -/

/-- A word, reserved or not, from its first character on. -/
def word (flags : Flags) (first : Char) (s : σ) : Scanned σ :=
  let (run, s) := readWhile isNameNext s
  let text := first :: run
  let outcome :=
    if flags.plainWords then .ok .bareword
    else
      match TokenKind.ofWord? (String.ofList text) with
      | some kind => .ok kind
      | none =>
        if flags.barewords then .ok .bareword
        else .error (.unknownBareword (String.ofList text))
  { outcome, text, source := s }

/-- The number of a color of three, four, six or eight hexadecimal digits.  In
the short forms each digit counts twice. -/
def color? (hex : List Char) : Option Nat := do
  let digits ← hex.mapM (digit? 16)
  if digits.length = 3 ∨ digits.length = 4 then
    return digits.foldl (fun sum d => sum * 0x100 + d * 0x11) 0
  else if digits.length = 6 ∨ digits.length = 8 then
    return digits.foldl (fun sum d => sum * 0x10 + d) 0
  else
    none

/-- A color, behind its number sign. -/
def color (s : σ) : Scanned σ :=
  let (hex, s) := readWhile isHex s
  let text := '#' :: hex
  match color? hex with
  | some n =>
    { outcome := .ok .integer, text, literal := some (.int (.ofNat n)),
      source := s }
  | none =>
    { outcome := .error (.invalidColor (String.ofList text)), text, source := s }

/-! ## Strings -/

/-- Reads `count` hexadecimal digits that go on from the number `code`. -/
def hexCode : Nat → Nat → σ → Option Nat × σ
  | 0, code, s => (some code, s)
  | count + 1, code, s =>
    match next s with
    | none => (none, s)
    | some (c, s') =>
      match digit? 16 c with
      | some digit => hexCode count (code * 16 + digit) s'
      | none => (none, s')

/-- The character that an escape stands for, behind its backslash. -/
def escaped (s : σ) : Except ScanError Char × σ :=
  match next s with
  | none => (.error .unterminatedString, s)
  | some ('u', s') =>
    match hexCode 4 0 s' with
    | (some code, rest) =>
      if code.isValidChar then (.ok (Char.ofNat code), rest)
      else (.error (.invalidEscape 'u'), rest)
    | (none, rest) => (.error (.invalidEscape 'u'), rest)
  | some (c, s') =>
    match unescape? c with
    | some meant => (.ok meant, s')
    | none => (.error (.invalidEscape c), s')

theorem remaining_hexCode_le
    (count code : Nat)
    (s : σ) :
    remaining (hexCode count code s).2 ≤ remaining s := by
  induction count generalizing code s with
  | zero => exact Nat.le_refl _
  | succ count ih =>
      rw [hexCode]
      split
      · exact Nat.le_refl _
      · rename_i read
        have shorter := remaining_next read
        split
        · exact Nat.le_trans (ih _ _) (Nat.le_of_lt shorter)
        · exact Nat.le_of_lt shorter

theorem remaining_escaped_le (s : σ) : remaining (escaped s).2 ≤ remaining s := by
  rw [escaped]
  split
  · exact Nat.le_refl _
  · rename_i s' read
    have shorter := remaining_next read
    have bound := remaining_hexCode_le 4 0 s'
    split
    · rename_i coded
      rw [coded] at bound
      split <;> exact Nat.le_trans bound (Nat.le_of_lt shorter)
    · rename_i coded
      rw [coded] at bound
      exact Nat.le_trans bound (Nat.le_of_lt shorter)
  · rename_i read
    split <;> exact Nat.le_of_lt (remaining_next read)

/-- The characters of a string up to its closing quote, and what is wrong with
them if anything is. -/
def stringBody (quote : Char) (s : σ) : Option ScanError × List Char × σ :=
  match _read : next s with
  | none => (some .unterminatedString, [], s)
  | some (c, s') =>
    if c = quote then (none, [], s')
    else if c = '\\' then
      match _meant : escaped s' with
      | (.error fault, rest) => (some fault, [], rest)
      | (.ok meant, rest) =>
        let (fault, body, rest) := stringBody quote rest
        (fault, meant :: body, rest)
    else
      let (fault, body, rest) := stringBody quote s'
      (fault, c :: body, rest)
termination_by remaining s
decreasing_by
  · have shorter := remaining_next _read
    have bound := remaining_escaped_le s'
    rw [_meant] at bound
    simp only at bound
    omega
  · exact remaining_next _read

/-- A string, behind its opening quote. -/
def string (quote : Char) (s : σ) : Scanned σ :=
  match stringBody quote s with
  | (none, text, s) => { outcome := .ok .string, text, source := s }
  | (some fault, text, s) => { outcome := .error fault, text, source := s }

/-! ## Numbers -/

/-- The base that a letter behind a leading zero announces. -/
def radix? : Char → Option Nat
  | 'x' | 'X' => some 16
  | 'o' | 'O' => some 8
  | 'b' | 'B' => some 2
  | _ => none

/-- The base of the number, if its next characters are a base letter and a digit
of that base. -/
def seesRadix (s : σ) : Option Nat × σ :=
  match peek s with
  | (none, s) => (none, s)
  | (some letter, s) =>
    match radix? letter with
    | none => (none, s)
    | some radix =>
      let (digit, s) := seesNext (isDigit radix) s
      (if digit then some radix else none, s)

/-- The rest of a whole number in base `radix`, from its base letter on.  The
digits fill a word of 64 bits, which a minus sign negates. -/
def radixNumber (radix : Nat) (sign : Option Char) (s : σ) : Scanned σ :=
  let (letter, s) := take s
  let (digits, s) := readWhile (isDigit radix) s
  let text := sign.toList ++ '0' :: letter.toList ++ digits
  let value := ofDigits radix digits
  if value < UInt64.size then
    let word := Int64.ofNat value
    let signed := if sign = some '-' then -word else word
    { outcome := .ok .integer, text, literal := some (.int signed), source := s }
  else
    { outcome := .error (.integerOverflow (String.ofList text)), text,
      source := s }

/-- Whether the next characters are a decimal point and a digit.  Only behind a
point the source is asked for the second one. -/
def seesPlaces (s : σ) : Bool × σ :=
  let (point, s) := sees (· == '.') s
  if point then seesNext isDecimal s else (false, s)

/-- A decimal point and the digits behind it, if there are any. -/
def fraction (s : σ) : List Char × σ :=
  let (ahead, s) := seesPlaces s
  if ahead then
    let (point, s) := take s
    let (digits, s) := readWhile isDecimal s
    (point.toList ++ digits, s)
  else
    ([], s)

/-- An exponent, if there is one: a letter that no digits follow is left to the
next token. -/
def exponent (s : σ) : Except ScanError (List Char) × σ :=
  let (letter, s) := sees (fun c => c == 'e' || c == 'E') s
  if letter then
    let (start, s) := mark s
    let (letter, s) := take s
    let (sign, s) := takeIf (fun c => c == '+' || c == '-') s
    let (digit, s) := sees isDecimal s
    if digit then
      let (digits, s) := readWhile isDecimal s
      (.ok (letter.toList ++ sign.toList ++ digits), s)
    else
      match reset start s with
      | some s => (.ok [], s)
      | none => (.error .staleMark, s)
  else
    (.ok [], s)

/-- The token of a whole number in decimal. -/
def wholeNumber (text : List Char) (s : σ) : Scanned σ :=
  match (Decimal.ofInteger? text).bind word? with
  | some n =>
    { outcome := .ok .integer, text, literal := some (.int n), source := s }
  | none =>
    { outcome := .error (.integerOverflow (String.ofList text)), text,
      source := s }

/-- The token of a number with a fraction or an exponent. -/
def floatNumber (text : List Char) (s : σ) : Scanned σ :=
  match floatOfChars? text with
  | some x =>
    { outcome := .ok .float, text, literal := some (.float x), source := s }
  | none =>
    { outcome := .error (.invalidNumber (String.ofList text)), text, source := s }

/-- The rest of a decimal number that starts with `head`. -/
def decimalNumber (head : List Char) (s : σ) : Scanned σ :=
  let (digits, s) := readWhile isDecimal s
  let (places, s) := fraction s
  match exponent s with
  | (.error fault, s) =>
    { outcome := .error fault, text := head ++ digits ++ places, source := s }
  | (.ok power, s) =>
    let text := head ++ digits ++ places ++ power
    if places.isEmpty && power.isEmpty then wholeNumber text s
    else floatNumber text s

/-- The rest of a number, behind its sign and its first digit. -/
def numberFrom (sign : Option Char) (lead : Char) (s : σ) : Scanned σ :=
  if lead = '0' then
    match seesRadix s with
    | (some radix, s) => radixNumber radix sign s
    | (none, s) => decimalNumber (sign.toList ++ [lead]) s
  else
    decimalNumber (sign.toList ++ [lead]) s

/-- A number, from its first character on, which is a digit or a sign. -/
def number (first : Char) (s : σ) : Scanned σ :=
  if isDecimal first then numberFrom none first s
  else
    match next s with
    | some (lead, s) => numberFrom (some first) lead s
    | none =>
      { outcome := .error (.invalidNumber (String.ofList [first])),
        text := [first], source := s }

/-! ## Symbols -/

/-- A symbol of one character. -/
def single (kind : TokenKind) (first : Char) (s : σ) : Scanned σ :=
  { outcome := .ok kind, text := [first], source := s }

/-- A symbol that may be followed by `second`, which makes it another kind. -/
def double
    (alone : TokenKind)
    (second : Char)
    (both : TokenKind)
    (first : Char)
    (s : σ) :
    Scanned σ :=
  match takeIf (· == second) s with
  | (some c, s) => { outcome := .ok both, text := [first, c], source := s }
  | (none, s) => { outcome := .ok alone, text := [first], source := s }

/-- A symbol that starts with `<`. -/
def less (first : Char) (s : σ) : Scanned σ :=
  match takeIf (· == '=') s with
  | (some c, s) =>
    match takeIf (· == '>') s with
    | (some d, s) => { outcome := .ok .cmp, text := [first, c, d], source := s }
    | (none, s) => { outcome := .ok .le, text := [first, c], source := s }
  | (none, s) => double .lt '>' .ne first s

/-- An operator or a punctuation mark, behind its first character. -/
def symbol (first : Char) (s : σ) : Scanned σ :=
  match first with
  | '(' => single .openParen first s
  | ')' => single .closeParen first s
  | '[' => single .openBracket first s
  | ']' => single .closeBracket first s
  | ',' => single .comma first s
  | '?' => single .question first s
  | ':' => single .colon first s
  | ';' => single .semicolon first s
  | '&' => double .and '&' .and first s
  | '|' => double .or '|' .or first s
  | '^' => double .xor '^' .xor first s
  | '~' => single .bitNot first s
  | '!' => double .not '=' .ne first s
  | '=' => double .eq '=' .eq first s
  | '<' => less first s
  | '>' => double .gt '=' .ge first s
  | '+' => single .add first s
  | '-' => single .sub first s
  | '*' => double .mul '*' .pow first s
  | '/' => single .div first s
  | '%' => single .rem first s
  | '.' => single .concat first s
  | _ =>
    { outcome := .error (.unexpectedCharacter first), text := [first],
      source := s }

/-! ## All tokens -/

/-- A name behind a colon, if a name follows it, and else the colon itself. -/
def colon (s : σ) : Scanned σ :=
  match sees isNameFirst s with
  | (true, s) =>
    let (text, s) := readWhile isNameNext s
    { outcome := .ok .identifier, text, source := s }
  | (false, s) => symbol ':' s

/-- A number behind a sign, if signs belong to numbers and a digit follows, and
else the operator that the sign is. -/
def sign (flags : Flags) (first : Char) (s : σ) : Scanned σ :=
  if flags.splitSigns then symbol first s
  else
    match sees isDecimal s with
    | (true, s) => number first s
    | (false, s) => symbol first s

/-- The token at the front of the source. -/
def lex (flags : Flags) (s : σ) : Scanned σ :=
  match next s with
  | none => { outcome := .ok .endOfInput, source := s }
  | some (c, s) =>
    if c = '\'' ∨ c = '"' then string c s
    else if c = ':' then colon s
    else if c = '#' then color s
    else if c = '+' ∨ c = '-' then sign flags c s
    else if isDecimal c then number c s
    else if isNameFirst c then word flags c s
    else symbol c s

end Scanned

end Formula
