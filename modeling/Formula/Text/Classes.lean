import Formula.Text.Alphabetic

/-!
# Character classes

The classes that decide where a token starts and ends.  Blanks and the
characters of names are those of Unicode; digits are ASCII alone, since only
they spell numbers.
-/

namespace Formula.Text

/-- Characters with the Unicode property `White_Space`. -/
def blank : CharSet := ⟨
  [(0x9, 0xD), (0x20, 0x20), (0x85, 0x85), (0xA0, 0xA0), (0x1680, 0x1680),
   (0x2000, 0x200A), (0x2028, 0x2029), (0x202F, 0x202F), (0x205F, 0x205F),
   (0x3000, 0x3000)]⟩

/-- A blank separates tokens and is otherwise ignored. -/
def isBlank (c : Char) : Bool :=
  blank.contains c

/-- A letter of any script. -/
def isLetter (c : Char) : Bool :=
  if c.toNat < 0x80 then c.isAlpha else alphabetic.contains c

/-- A letter or a number sign of any script. -/
def isLetterOrNumber (c : Char) : Bool :=
  if c.toNat < 0x80 then c.isAlphanum
  else alphabetic.contains c || numeric.contains c

/-- The characters a name may start with. -/
def isNameFirst (c : Char) : Bool :=
  isLetter c || c == '_'

/-- The characters a name may go on with. -/
def isNameNext (c : Char) : Bool :=
  isLetterOrNumber c || c == '_'

/-- What an ASCII digit or letter counts in bases up to thirty-six. -/
def digitValue? (c : Char) : Option Nat :=
  if '0' ≤ c ∧ c ≤ '9' then some (c.toNat - '0'.toNat)
  else if 'a' ≤ c ∧ c ≤ 'z' then some (c.toNat - 'a'.toNat + 10)
  else if 'A' ≤ c ∧ c ≤ 'Z' then some (c.toNat - 'A'.toNat + 10)
  else none

/-- The value of `c` as a digit of base `radix`. -/
def digit? (radix : Nat) (c : Char) : Option Nat :=
  (digitValue? c).filter (· < radix)

/-- Whether `c` is a digit of base `radix`. -/
def isDigit (radix : Nat) (c : Char) : Bool :=
  (digit? radix c).isSome

/-- The decimal digits. -/
abbrev isDecimal (c : Char) : Bool :=
  isDigit 10 c

/-- The hexadecimal digits, in either case. -/
abbrev isHex (c : Char) : Bool :=
  isDigit 16 c

/-- The text without the blanks at its two ends. -/
def trim (text : String) : String :=
  let front := text.toList.dropWhile isBlank
  String.ofList (front.reverse.dropWhile isBlank).reverse

/-- The number that a list of digits spells in base `radix`. -/
def ofDigits (radix : Nat) (digits : List Char) : Nat :=
  digits.foldl (fun sum c => sum * radix + (digitValue? c).getD 0) 0

theorem isNameNext_of_isNameFirst
    {c : Char}
    (first : isNameFirst c) :
    isNameNext c := by
  simp only [isNameFirst, isNameNext, isLetter, isLetterOrNumber,
    Bool.or_eq_true] at first ⊢
  rcases first with letter | underscore
  · left
    split at letter
    · simp_all [Char.isAlphanum]
    · simp_all
  · exact Or.inr underscore

end Formula.Text
