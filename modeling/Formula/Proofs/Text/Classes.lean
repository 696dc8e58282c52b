import Formula.Text.Classes

/-!
# How character classes relate

Where a token ends is decided by the class of the character behind it.  Blanks
are in no name, and neither are quotes and the signs of operators; digits go on
with a name but do not start one.
-/

namespace Formula.Text

/-- No range of one set meets a range of the other. -/
def CharSet.Disjoint (left right : CharSet) : Prop :=
  ∀ range ∈ left.ranges, ∀ range' ∈ right.ranges,
    range.2 < range'.1 ∨ range'.2 < range.1

instance (left right : CharSet) : Decidable (left.Disjoint right) :=
  inferInstanceAs (Decidable (∀ range ∈ left.ranges, ∀ range' ∈ right.ranges, _))

theorem CharSet.Disjoint.not_contains
    {left right : CharSet}
    (disjoint : left.Disjoint right)
    {c : Char}
    (inLeft : left.contains c) :
    right.contains c = false := by
  rcases (left.contains_iff c).mp inLeft with ⟨range, isRange, low, high⟩
  rw [← Bool.not_eq_true]
  intro inRight
  rcases (right.contains_iff c).mp inRight with ⟨range', isRange', low', high'⟩
  rcases disjoint range isRange range' isRange' with apart | apart <;> omega

theorem blank_disjoint_alphabetic : blank.Disjoint alphabetic := by
  decide +kernel

theorem blank_disjoint_numeric : blank.Disjoint numeric := by
  decide +kernel

theorem le_iff_toNat_le (c d : Char) : c ≤ d ↔ c.toNat ≤ d.toNat := by
  rw [Char.le_def, UInt32.le_iff_toNat_le]
  rfl

/-- The decimal digits are the ten of ASCII. -/
theorem isDecimal_iff {c : Char} : isDecimal c ↔ 48 ≤ c.toNat ∧ c.toNat ≤ 57 := by
  have zero : '0'.toNat = 48 := rfl
  have nine : '9'.toNat = 57 := rfl
  simp only [isDigit, digit?, digitValue?, le_iff_toNat_le, zero, nine]
  split
  case isTrue digit =>
    have below : c.toNat - 48 < 10 := by omega
    simp [below, digit]
  case isFalse notDigit =>
    simp only [notDigit, iff_false]
    split
    · simp
    · split <;> simp

theorem digitValue?_of_isDecimal
    {c : Char}
    (digit : isDecimal c) :
    digitValue? c = some (c.toNat - '0'.toNat) := by
  have zero : '0'.toNat = 48 := rfl
  have nine : '9'.toNat = 57 := rfl
  simp only [digitValue?, le_iff_toNat_le, zero, nine,
    if_pos (isDecimal_iff.mp digit)]

theorem isDecimal_iff_isDigit {c : Char} : isDecimal c ↔ c.isDigit := by
  rw [isDecimal_iff]
  simp only [Char.isDigit, Bool.and_eq_true, decide_eq_true_eq, ge_iff_le,
    UInt32.le_iff_toNat_le]
  rfl

theorem isAlpha_iff {c : Char} :
    c.isAlpha ↔ (65 ≤ c.toNat ∧ c.toNat ≤ 90) ∨
      (97 ≤ c.toNat ∧ c.toNat ≤ 122) := by
  show (decide (c.val ≥ 65 ∧ c.val ≤ 90) ||
    (decide (c.val ≥ 97) && decide (c.val ≤ 122))) = true ↔ _
  simp only [Bool.or_eq_true, Bool.and_eq_true, decide_eq_true_eq, ge_iff_le,
    UInt32.le_iff_toNat_le]
  rfl

theorem isNameFirst_iff
    {c : Char}
    (ascii : c.toNat < 0x80) :
    isNameFirst c ↔
      (65 ≤ c.toNat ∧ c.toNat ≤ 90) ∨
        (97 ≤ c.toNat ∧ c.toNat ≤ 122) ∨ c.toNat = 95 := by
  have underscore : (c == '_') = true ↔ c.toNat = 95 := by
    rw [beq_iff_eq]
    constructor
    · rintro rfl
      rfl
    · intro same
      exact Char.toNat_inj.mp same
  simp only [isNameFirst, isLetter, ascii, ↓reduceIte, Bool.or_eq_true, underscore,
    isAlpha_iff, or_assoc]

theorem isNameFirst_of_isDecimal
    {c : Char}
    (digit : isDecimal c) :
    isNameFirst c = false := by
  have range := isDecimal_iff.mp digit
  have ascii : c.toNat < 0x80 := by omega
  rw [← Bool.not_eq_true, isNameFirst_iff ascii]
  omega

/-- A name may go on with ASCII digits too. -/
theorem isNameNext_iff
    {c : Char}
    (ascii : c.toNat < 0x80) :
    isNameNext c ↔ isNameFirst c ∨ isDecimal c := by
  simp only [isNameNext, isNameFirst, isLetterOrNumber, isLetter, ascii,
    ↓reduceIte, Char.isAlphanum, Bool.or_eq_true, isDecimal_iff_isDigit]
  exact or_right_comm

theorem isNameNext_of_isDecimal
    {c : Char}
    (digit : isDecimal c) :
    isNameNext c := by
  have range := isDecimal_iff.mp digit
  exact (isNameNext_iff (by omega)).mpr (Or.inr digit)

/-- Digits of every base can be in a name. -/
theorem isNameNext_of_isDigit
    {radix : Nat}
    {c : Char}
    (digit : isDigit radix c) :
    isNameNext c := by
  have bounds :
      '0'.toNat = 48 ∧ '9'.toNat = 57 ∧ 'a'.toNat = 97 ∧ 'z'.toNat = 122 ∧
      'A'.toNat = 65 ∧ 'Z'.toNat = 90 := by decide
  rcases Option.isSome_iff_exists.mp digit with ⟨value, found⟩
  have counts : (digitValue? c).isSome :=
    Option.isSome_of_eq_some (Option.filter_eq_some_iff.mp found).1
  simp only [digitValue?, le_iff_toNat_le, bounds] at counts
  split at counts
  case isTrue range => exact isNameNext_of_isDecimal (isDecimal_iff.mpr range)
  split at counts
  case isTrue range =>
    have ascii : c.toNat < 0x80 := by omega
    exact isNameNext_of_isNameFirst ((isNameFirst_iff ascii).mpr (by omega))
  split at counts
  case isTrue range =>
    have ascii : c.toNat < 0x80 := by omega
    exact isNameNext_of_isNameFirst ((isNameFirst_iff ascii).mpr (by omega))
  case isFalse => cases counts

/-- No blank is in a name. -/
theorem isNameNext_of_isBlank
    {c : Char}
    (isBlank : isBlank c) :
    isNameNext c = false := by
  by_cases ascii : c.toNat < 0x80
  · rcases (CharSet.contains_iff _ _).mp isBlank with ⟨range, isRange, low, high⟩
    have early : c.toNat ≤ 32 := by
      simp only [blank, List.mem_cons, List.not_mem_nil, or_false] at isRange
      rcases isRange with
        rfl | rfl | rfl | rfl | rfl | rfl | rfl | rfl | rfl | rfl <;> omega
    rw [← Bool.not_eq_true, isNameNext_iff ascii, isNameFirst_iff ascii,
      isDecimal_iff]
    omega
  · have notUnderscore : (c == '_') = false := by
      rw [beq_eq_false_iff_ne]
      rintro rfl
      exact ascii (by decide)
    have notAlphabetic := blank_disjoint_alphabetic.not_contains isBlank
    have notNumeric := blank_disjoint_numeric.not_contains isBlank
    simp [isNameNext, isLetterOrNumber, ascii, notUnderscore, notAlphabetic,
      notNumeric]

theorem isBlank_of_isNameNext
    {c : Char}
    (inName : isNameNext c) :
    isBlank c = false := by
  rw [← Bool.not_eq_true]
  intro isBlank
  simp [isNameNext_of_isBlank isBlank] at inName

/-- The texts that can be names. -/
def IsName (text : String) : Prop :=
  ∃ first run, text.toList = first :: run ∧ isNameFirst first ∧
    ∀ c ∈ run, isNameNext c

theorem IsName.ne_empty
    {text : String}
    (isName : IsName text) :
    text ≠ "" := by
  rcases isName with ⟨first, run, chars, _, _⟩
  rintro rfl
  cases chars

end Formula.Text
