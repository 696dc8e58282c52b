import Formula.Proofs.Store.Search
import Formula.Proofs.Text.Bytes

/-!
# Entries as a map

Entries in the order of their names are a finite map: setting and removing keep
the order, change what the name leads to, and are not felt by any other name.
They do so at the place where halving finds the name.
-/

namespace Formula.Variables

variable {name other : String} {entries : List (String × Value)}

/-! ## Entries -/

theorem lookup_insert_self
    (name : String)
    (value : Value)
    (entries : List (String × Value)) :
    (insert name value entries).lookup name = some value := by
  induction entries with
  | nil => exact List.lookup_cons_self
  | cons entry rest ih =>
      rw [insert]
      split
      case isTrue => exact List.lookup_cons_self
      split
      case isTrue above =>
        have notHere : (name == entry.1) = false :=
          beq_eq_false_iff_ne.mpr fun same => String.lt_irrefl _ (same ▸ above)
        rw [List.lookup_cons, notHere]
        exact ih
      case isFalse => exact List.lookup_cons_self

theorem lookup_insert_of_ne
    (value : Value)
    (different : other ≠ name)
    (entries : List (String × Value)) :
    (insert name value entries).lookup other = entries.lookup other := by
  have notHere : (other == name) = false := beq_eq_false_iff_ne.mpr different
  induction entries with
  | nil => rw [insert, List.lookup_cons, notHere]
  | cons entry rest ih =>
      rw [insert]
      split
      case isTrue => rw [List.lookup_cons, notHere]
      split
      case isTrue => rw [List.lookup_cons, ih, List.lookup_cons]
      case isFalse notBelow notAbove =>
        have sameName : entry.1 = name := by
          exact String.le_antisymm notBelow notAbove
        rw [List.lookup_cons, List.lookup_cons, sameName, notHere]

theorem lookup_filter_self
    (name : String)
    (entries : List (String × Value)) :
    (entries.filter (·.1 ≠ name)).lookup name = none := by
  rw [List.lookup_eq_none_iff]
  intro entry isKept
  have different : entry.1 ≠ name := by simpa using (List.mem_filter.mp isKept).2
  exact bne_iff_ne.mpr different.symm

theorem lookup_filter_of_ne
    (different : other ≠ name)
    (entries : List (String × Value)) :
    (entries.filter (·.1 ≠ name)).lookup other = entries.lookup other := by
  induction entries with
  | nil => rfl
  | cons entry rest ih =>
      by_cases removed : entry.1 = name
      · have notHere : (other == entry.1) = false :=
          beq_eq_false_iff_ne.mpr (removed ▸ different)
        rw [List.filter_cons_of_neg (by simpa using removed), ih, List.lookup_cons,
          notHere]
      · rw [List.filter_cons_of_pos (by simpa using removed), List.lookup_cons, ih,
          List.lookup_cons]

theorem mem_insert
    {value : Value}
    {entry : String × Value}
    (isMember : entry ∈ insert name value entries) :
    entry = (name, value) ∨ entry ∈ entries := by
  induction entries with
  | nil => exact .inl (List.mem_singleton.mp isMember)
  | cons first rest ih =>
      rw [insert] at isMember
      split at isMember
      case isTrue => exact List.mem_cons.mp isMember
      split at isMember
      case isTrue =>
        rcases List.mem_cons.mp isMember with rfl | isMember
        · exact .inr List.mem_cons_self
        · exact (ih isMember).imp_right (List.mem_cons_of_mem _)
      case isFalse =>
          exact (List.mem_cons.mp isMember).imp_right (List.mem_cons_of_mem _)

theorem Ordered.insert
    (ordered : Ordered entries)
    (name : String)
    (value : Value) :
    Ordered (insert name value entries) := by
  induction entries with
  | nil => exact List.pairwise_singleton _ _
  | cons entry rest ih =>
      rcases List.pairwise_cons.mp ordered with ⟨above, ordered⟩
      rw [Variables.insert]
      split
      case isTrue below =>
        refine List.pairwise_cons.mpr ⟨?_, List.pairwise_cons.mpr ⟨above, ordered⟩⟩
        intro later isLater
        rcases List.mem_cons.mp isLater with rfl | isLater
        · exact below
        · exact String.lt_trans below (above later isLater)
      split
      case isTrue below =>
        refine List.pairwise_cons.mpr ⟨?_, ih ordered⟩
        intro later isLater
        rcases mem_insert isLater with rfl | isLater
        · exact below
        · exact above later isLater
      case isFalse notBelow notAbove =>
        have sameName : entry.1 = name := String.le_antisymm notBelow notAbove
        exact List.pairwise_cons.mpr ⟨sameName ▸ above, ordered⟩

/-- In an ordered list an entry is the one that its name leads to. -/
theorem Ordered.mem_iff
    (ordered : Ordered entries)
    (name : String)
    (value : Value) :
    (name, value) ∈ entries ↔ entries.lookup name = some value := by
  induction entries with
  | nil => exact iff_of_false List.not_mem_nil nofun
  | cons entry rest ih =>
      rcases List.pairwise_cons.mp ordered with ⟨above, ordered⟩
      rw [List.mem_cons, List.lookup_cons]
      by_cases isFirst : name = entry.1
      · subst isFirst
        have notLater : (entry.1, value) ∉ rest := fun isLater =>
          String.lt_irrefl _ (above (entry.1, value) isLater)
        rw [beq_self_eq_true, Option.some_inj, or_iff_left notLater, eq_comm,
          Prod.ext_iff]
        exact and_iff_right rfl
      · have notFirst : (name, value) ≠ entry :=
          fun same => isFirst (congrArg Prod.fst same)
        rw [beq_eq_false_iff_ne.mpr isFirst, or_iff_right notFirst]
        exact ih ordered

/-! ## At the place of a name -/

/-- A name goes behind those that come before it. -/
theorem insert_append
    {front : List (String × Value)}
    (before : ∀ entry ∈ front, entry.1 < name)
    (value : Value)
    (back : List (String × Value)) :
    insert name value (front ++ back) = front ++ insert name value back := by
  induction front with
  | nil => rfl
  | cons entry front ih =>
      have below : entry.1 < name := before entry List.mem_cons_self
      rw [List.cons_append, insert, if_neg (String.lt_asymm below), if_pos below,
        ih fun later isLater => before later (List.mem_cons_of_mem _ isLater)]
      rfl

theorem insert_of_lt
    {back : List (String × Value)}
    (behind : ∀ entry ∈ back, name < entry.1)
    (value : Value) :
    insert name value back = (name, value) :: back := by
  cases back with
  | nil => rfl
  | cons entry back => rw [insert, if_pos (behind entry List.mem_cons_self)]

theorem lookup_eq_none_of_ne
    (others : ∀ entry ∈ entries, entry.1 ≠ name) :
    entries.lookup name = none := by
  rw [List.lookup_eq_none_iff]
  intro entry isMember
  exact bne_iff_ne.mpr (others entry isMember).symm

theorem filter_eq_self_of_ne
    (others : ∀ entry ∈ entries, entry.1 ≠ name) :
    entries.filter (·.1 ≠ name) = entries := by
  rw [List.filter_eq_self]
  intro entry isMember
  exact decide_eq_true (others entry isMember)

theorem insertIdx_length
    (entry : String × Value)
    (front back : List (String × Value)) :
    (front ++ back).insertIdx front.length entry = front ++ entry :: back := by
  induction front with
  | nil => exact List.insertIdx_zero
  | cons first front ih =>
      rw [List.cons_append, List.length_cons, List.insertIdx_succ_cons, ih,
        List.cons_append]

/-- At its place, a name is set, removed and read. -/
theorem entries_eq_of_place
    (ordered : Ordered entries)
    (value : Value)
    (place : Except Nat Nat) :
    Place name entries place →
    insert name value entries =
        (match place with
          | .ok index => entries.set index (name, value)
          | .error index => entries.insertIdx index (name, value)) ∧
      entries.filter (·.1 ≠ name) =
        (match place with
          | .ok index => entries.eraseIdx index
          | .error _ => entries) ∧
      entries.lookup name =
        (match place with
          | .ok index => entries[index]?.map Prod.snd
          | .error _ => none) := by
  intro stands
  cases stands with
  | present front back old =>
      rcases List.pairwise_append.mp ordered with ⟨_, ordered, between⟩
      have behind : ∀ entry ∈ back, name < entry.1 :=
        (List.pairwise_cons.mp ordered).1
      have before : ∀ entry ∈ front, entry.1 < name := fun entry isFront =>
        between entry isFront _ List.mem_cons_self
      have notFront : ∀ entry ∈ front, entry.1 ≠ name := fun entry isFront =>
        String.ne_of_lt (before entry isFront)
      have notBack : ∀ entry ∈ back, entry.1 ≠ name := fun entry isBack =>
        (String.ne_of_lt (behind entry isBack)).symm
      refine ⟨?_, ?_, ?_⟩
      · rw [insert_append before, insert, if_neg (String.lt_irrefl _),
          if_neg (String.lt_irrefl _)]
        simp
      · rw [List.filter_append, filter_eq_self_of_ne notFront,
          List.filter_cons_of_neg (by simp), filter_eq_self_of_ne notBack]
        simp only
        rw [List.eraseIdx_append_of_length_le (Nat.le_refl _), Nat.sub_self,
          List.eraseIdx_cons_zero]
      · rw [List.lookup_append, lookup_eq_none_of_ne notFront]
        simp
  | @missing front back before behind =>
      have notThere : ∀ entry ∈ front ++ back, entry.1 ≠ name := by
        intro entry isMember
        rcases List.mem_append.mp isMember with isFront | isBack
        · exact String.ne_of_lt (before entry isFront)
        · exact (String.ne_of_lt (behind entry isBack)).symm
      refine ⟨?_, filter_eq_self_of_ne notThere, lookup_eq_none_of_ne notThere⟩
      rw [insert_append before, insert_of_lt behind]
      exact (insertIdx_length _ front back).symm

/-! ## Stores -/

theorem get?_set_self
    (scope : Variables)
    (name : String)
    (value : Value) :
    (scope.set name value).2.get? name = some value :=
  lookup_insert_self name value scope.entries

/-- Setting a variable changes no other one. -/
theorem get?_set_of_ne
    (scope : Variables)
    (value : Value)
    (different : other ≠ name) :
    (scope.set name value).2.get? other = scope.get? other :=
  lookup_insert_of_ne value different scope.entries

theorem get?_unset_self
    (scope : Variables)
    (name : String) :
    (scope.unset name).2.get? name = none :=
  lookup_filter_self name scope.entries

/-- Removing a variable changes no other one. -/
theorem get?_unset_of_ne
    (scope : Variables)
    (different : other ≠ name) :
    (scope.unset name).2.get? other = scope.get? other :=
  lookup_filter_of_ne different scope.entries

/-- A name leads to a value if it is among the names of the entries. -/
theorem mem_names_iff
    (scope : Variables)
    (name : String) :
    name ∈ scope.entries.map Prod.fst ↔ (scope.get? name).isSome := by
  rw [get?, List.lookup_isSome_iff]
  constructor
  · intro isName
    rcases List.mem_map.mp isName with ⟨entry, isMember, rfl⟩
    exact ⟨entry, isMember, beq_self_eq_true _⟩
  · rintro ⟨entry, isMember, same⟩
    exact List.mem_map.mpr ⟨entry, isMember, (beq_iff_eq.mp same).symm⟩

/-- A store in order has as many entries as there are names with a value. -/
theorem length_eq_size
    (scope : Variables)
    (ordered : Ordered scope.entries)
    {names : List String}
    (distinct : names.Nodup)
    (complete : ∀ name, name ∈ names ↔ (scope.get? name).isSome) :
    names.length = scope.size := by
  have distinct' : (scope.entries.map Prod.fst).Nodup := by
    rw [List.nodup_iff_pairwise_ne, List.pairwise_map]
    exact ordered.imp String.ne_of_lt
  have same : names.Perm (scope.entries.map Prod.fst) :=
    (List.perm_ext_iff_of_nodup distinct distinct').mpr fun name => by
      rw [complete, mem_names_iff]
  rw [size, same.length_eq, List.length_map]

theorem size_eq_zero_iff (scope : Variables) :
    scope.size = 0 ↔ ∀ name, scope.get? name = none := by
  constructor
  · intro isEmpty name
    rw [get?, List.length_eq_zero_iff.mp isEmpty, List.lookup_nil]
  · intro allMissing
    rw [size, List.length_eq_zero_iff, List.eq_nil_iff_forall_not_mem]
    intro entry isMember
    have isSome := (scope.mem_names_iff entry.1).mp (List.mem_map_of_mem isMember)
    rw [allMissing] at isSome
    exact Bool.noConfusion isSome

end Formula.Variables
