import Formula.Variables

/-!
# Search among ordered entries

The entries of a store are in the order of their names, so that a name is found by
halving: it is at an entry, or it belongs between those before it and those behind
it.  Setting, removing and reading a variable do what they do at that place.
-/

namespace Formula.Variables

/-- The names of entries increase, so that each is there once. -/
def Ordered (entries : List (String × Value)) : Prop :=
  entries.Pairwise fun entry later => entry.1 < later.1

/-- Looks for a name from the entry `lower` on, as far as the one before `upper`.
The result is the entry of the name, or as an error the one that it belongs
before. -/
def search
    (entries : List (String × Value))
    (name : String)
    (lower upper : Nat)
    (inside : upper ≤ entries.length) :
    Except Nat Nat :=
  if notEmpty : lower < upper then
    let middle := lower + (upper - lower) / 2
    have lies : middle < upper := by omega
    if name < entries[middle].1 then
      search entries name lower middle (by omega)
    else if entries[middle].1 < name then
      search entries name (middle + 1) upper inside
    else .ok middle
  else .error lower
termination_by upper - lower

/-- The place of a name in the store. -/
def find (scope : Variables) (name : String) : Except Nat Nat :=
  search scope.entries name 0 scope.entries.length (Nat.le_refl _)

/-- A name is at its entry, or between the entries before it and those behind
it. -/
inductive Place (name : String) : List (String × Value) → Except Nat Nat → Prop
  | present
      (front back : List (String × Value))
      (old : Value) :
      Place name (front ++ (name, old) :: back) (.ok front.length)
  | missing
      {front back : List (String × Value)}
      (before : ∀ entry ∈ front, entry.1 < name)
      (behind : ∀ entry ∈ back, name < entry.1) :
      Place name (front ++ back) (.error front.length)

section Halving

variable {entries : List (String × Value)} {name : String} {middle : Nat}

/-- Around an entry of an ordered list, those before it and those behind it. -/
theorem Ordered.around
    (ordered : Ordered entries)
    (lies : middle < entries.length) :
    (∀ entry ∈ entries.take middle, entry.1 < entries[middle].1) ∧
      ∀ entry ∈ entries.drop (middle + 1), entries[middle].1 < entry.1 := by
  have cut : entries.take middle ++
      entries[middle] :: entries.drop (middle + 1) = entries := by
    rw [← List.drop_eq_getElem_cons lies, List.take_append_drop]
  rw [← cut, Ordered, List.pairwise_append, List.pairwise_cons] at ordered
  rcases ordered with ⟨_, ⟨above, _⟩, below⟩
  exact ⟨fun entry isFront => below entry isFront _ List.mem_cons_self, above⟩

/-- If an entry comes before a name then so do those in front of it. -/
theorem Ordered.take_lt
    (ordered : Ordered entries)
    (lies : middle < entries.length)
    (before : entries[middle].1 < name) :
    ∀ entry ∈ entries.take (middle + 1), entry.1 < name := by
  intro entry isFront
  rw [← List.take_append_getElem lies, List.mem_append,
    List.mem_singleton] at isFront
  rcases isFront with isFront | rfl
  · exact String.lt_trans ((ordered.around lies).1 entry isFront) before
  · exact before

/-- If an entry comes behind a name then so do those after it. -/
theorem Ordered.lt_drop
    (ordered : Ordered entries)
    (lies : middle < entries.length)
    (behind : name < entries[middle].1) :
    ∀ entry ∈ entries.drop middle, name < entry.1 := by
  intro entry isBack
  rw [List.drop_eq_getElem_cons lies, List.mem_cons] at isBack
  rcases isBack with rfl | isBack
  · exact behind
  · exact String.lt_trans behind ((ordered.around lies).2 entry isBack)

/-- Halving keeps the entries before the name in front and those behind it at the
back. -/
theorem search_place
    (ordered : Ordered entries)
    {lower upper : Nat}
    (inside : upper ≤ entries.length)
    (inOrder : lower ≤ upper)
    (before : ∀ entry ∈ entries.take lower, entry.1 < name)
    (behind : ∀ entry ∈ entries.drop upper, name < entry.1) :
    Place name entries (search entries name lower upper inside) := by
  induction lower, upper, inside using search.induct entries name with
  | case1 lower upper inside notEmpty middle lies below ih =>
      rw [search, dif_pos notEmpty]
      simp only
      rw [if_pos below]
      exact ih (Nat.le_add_right _ _) before (ordered.lt_drop _ below)
  | case2 lower upper inside notEmpty middle lies notBelow above ih =>
      rw [search, dif_pos notEmpty]
      simp only
      rw [if_neg notBelow, if_pos above]
      exact ih lies (ordered.take_lt _ above) behind
  | case3 lower upper inside notEmpty middle lies notBelow notAbove =>
      rw [search, dif_pos notEmpty]
      simp only
      rw [if_neg notBelow, if_neg notAbove]
      have isThere : middle < entries.length := Nat.lt_of_lt_of_le lies inside
      have sameName : entries[middle].1 = name :=
        String.le_antisymm notBelow notAbove
      have cut : entries.take middle ++ (name, entries[middle].2) ::
          entries.drop (middle + 1) = entries := by
        rw [← sameName, ← List.drop_eq_getElem_cons isThere, List.take_append_drop]
      have place : Place name _ _ :=
        .present (entries.take middle) (entries.drop (middle + 1))
          entries[middle].2
      rwa [cut, List.length_take_of_le (Nat.le_of_lt isThere)] at place
  | case4 lower upper inside isEmpty =>
      rw [search, dif_neg isEmpty]
      obtain rfl : lower = upper :=
        Nat.le_antisymm inOrder (Nat.le_of_not_lt isEmpty)
      have place := Place.missing before behind
      rwa [List.take_append_drop, List.length_take_of_le inside] at place

end Halving

/-- In a store whose entries are in order, a name is found at its place. -/
theorem find_place
    (scope : Variables)
    (ordered : Ordered scope.entries)
    (name : String) :
    Place name scope.entries (scope.find name) := by
  have none : ∀ entry ∈ scope.entries.take 0, entry.1 < name := by simp
  have none' :
      ∀ entry ∈ scope.entries.drop scope.entries.length, name < entry.1 := by simp
  exact search_place ordered _ (Nat.zero_le _) none none'

end Formula.Variables
