/-!
# Words of 64 bits

Integers are signed words of 64 bits, and arithmetic on them wraps around.  A
number from elsewhere is taken over only if a word holds it.
-/

namespace Formula.Number

/-- The word that holds a whole number, unless the number is out of range. -/
def word? (n : Int) : Option Int64 :=
  if Int64.minValue.toInt ≤ n ∧ n ≤ Int64.maxValue.toInt then some (.ofInt n)
  else none

/-- Words stand for exactly the numbers that they hold. -/
theorem word?_eq_some_iff
    {n : Int}
    {word : Int64} :
    word? n = some word ↔ word.toInt = n := by
  constructor
  · intro held
    simp only [word?] at held
    split at held
    case isTrue range =>
      obtain rfl := Option.some.inj held
      exact Int64.toInt_ofInt_of_le range.1 (Int.lt_add_one_of_le range.2)
    case isFalse => simp at held
  · rintro rfl
    have range :
        Int64.minValue.toInt ≤ word.toInt ∧ word.toInt ≤ Int64.maxValue.toInt :=
      ⟨Int64.minValue_le_toInt word, Int64.toInt_le word⟩
    rw [word?, if_pos range, Int64.ofInt_toInt]

end Formula.Number
