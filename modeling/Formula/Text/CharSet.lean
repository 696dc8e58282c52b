/-!
# Sets of characters

A Unicode property is a set of code points that comes in long runs.  `CharSet`
keeps the runs, and `CharSet.contains` decides membership.
-/

namespace Formula.Text

/-- A set of characters, given by inclusive ranges of code points. -/
structure CharSet where
  ranges : List (Nat × Nat)

/-- Whether some range of the set holds the character's code point. -/
def CharSet.contains (set : CharSet) (c : Char) : Bool :=
  set.ranges.any fun range => range.1 ≤ c.toNat && c.toNat ≤ range.2

theorem CharSet.contains_iff
    (set : CharSet)
    (c : Char) :
    set.contains c ↔
      ∃ range ∈ set.ranges, range.1 ≤ c.toNat ∧ c.toNat ≤ range.2 := by
  simp [CharSet.contains]

end Formula.Text
