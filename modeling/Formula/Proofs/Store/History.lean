import Formula.Proofs.Store.Map

/-!
# Stores through their operations

A store is a map of names to values in the order of the names, whatever was done
to it since it was made: a name has the value that it was last set to, unless it
was removed or all were removed behind that.
-/

namespace Formula.Variables

/-- What is done to a store, or asked of it as a host. -/
inductive Operation
  | set (name : String) (value : Value)
  | unset (name : String)
  | clear
  | setParent (parent : Option Resolver)
  | ask (question : Question)

/-- What comes back from an operation. -/
inductive Reply
  | nothing
  | previous (value : Option Value)
  | answer (outcome : Except Error Value)

/-- What an operation gives, and the store behind it. -/
def perform (scope : Variables) : Operation → Reply × Variables
  | .set name value =>
    let (previous, scope) := scope.set name value
    (.previous previous, scope)
  | .unset name =>
    let (previous, scope) := scope.unset name
    (.previous previous, scope)
  | .clear => (.nothing, scope.clear)
  | .setParent parent => (.nothing, scope.setParent parent)
  | .ask question => (.answer (scope.resolver.answer question), scope)

/-- The store behind one operation after the other. -/
def performAll (scope : Variables) (operations : List Operation) : Variables :=
  operations.foldl (fun scope operation => (scope.perform operation).2) scope

/-- An operation decides what a name leads to. -/
def Operation.Decides (name : String) : Operation → Prop
  | set changed _ => changed = name
  | unset removed => removed = name
  | clear => True
  | setParent _ => False
  | ask _ => False

/-- A name was set to a value, and nothing behind that decides what it leads to. -/
def LastSet (operations : List Operation) (name : String) (value : Value) : Prop :=
  ∃ before behind, operations = before ++ .set name value :: behind ∧
    ∀ operation ∈ behind, ¬ operation.Decides name

section

variable {operation : Operation} {operations : List Operation} {name : String}
  {value : Value}

theorem lastSet_cons :
    LastSet (operation :: operations) name value ↔
      LastSet operations name value ∨
        operation = .set name value ∧
          ∀ later ∈ operations, ¬ later.Decides name := by
  constructor
  · rintro ⟨before, behind, isCut, undecided⟩
    cases before with
    | nil =>
        rcases List.cons.inj isCut with ⟨isSet, rfl⟩
        exact .inr ⟨isSet, undecided⟩
    | cons first before =>
        exact .inl ⟨before, behind, (List.cons.inj isCut).2, undecided⟩
  · rintro (⟨before, behind, rfl, undecided⟩ | ⟨rfl, undecided⟩)
    · exact ⟨operation :: before, behind, rfl, undecided⟩
    · exact ⟨[], operations, rfl, undecided⟩

/-! ## One operation -/

theorem Ordered.perform
    {scope : Variables}
    (ordered : Ordered scope.entries)
    (operation : Operation) :
    Ordered (scope.perform operation).2.entries := by
  cases operation with
  | set name value => exact ordered.insert name value
  | unset name => exact ordered.filter _
  | clear => exact List.Pairwise.nil
  | setParent parent => exact ordered
  | ask question => exact ordered

/-- What a name leads to behind an operation, it was set to by that operation, or
it led to before and the operation does not decide. -/
theorem get?_perform
    (scope : Variables)
    (operation : Operation)
    (name : String)
    (value : Value) :
    (scope.perform operation).2.get? name = some value ↔
      operation = .set name value ∨
        ¬ operation.Decides name ∧ scope.get? name = some value := by
  cases operation with
  | set changed given =>
      by_cases isSame : changed = name
      · subst isSame
        have decides : Operation.Decides changed (.set changed given) := rfl
        rw [or_iff_left fun kept => kept.1 decides]
        show (scope.set changed given).2.get? changed = some value ↔ _
        rw [get?_set_self, Option.some_inj, Operation.set.injEq]
        exact (and_iff_right rfl).symm
      · have isOther : Operation.set changed given ≠ .set name value := by
          intro same
          exact isSame (Operation.set.inj same).1
        rw [or_iff_right isOther]
        show (scope.set changed given).2.get? name = some value ↔ _
        rw [scope.get?_set_of_ne given (Ne.symm isSame)]
        exact (and_iff_right isSame).symm
  | unset removed =>
      rw [or_iff_right nofun]
      show (scope.unset removed).2.get? name = some value ↔ _
      by_cases isSame : removed = name
      · subst isSame
        rw [get?_unset_self]
        exact iff_of_false nofun fun kept => kept.1 rfl
      · rw [scope.get?_unset_of_ne (Ne.symm isSame)]
        exact (and_iff_right isSame).symm
  | clear =>
      rw [or_iff_right nofun]
      exact iff_of_false nofun fun kept => kept.1 trivial
  | setParent parent =>
      rw [or_iff_right nofun]
      exact (and_iff_right id).symm
  | ask question =>
      rw [or_iff_right nofun]
      exact (and_iff_right id).symm

end

/-! ## All operations -/

theorem Ordered.performAll
    {scope : Variables}
    (ordered : Ordered scope.entries)
    (operations : List Operation) :
    Ordered (scope.performAll operations).entries := by
  induction operations generalizing scope with
  | nil => exact ordered
  | cons operation operations ih => exact ih (ordered.perform operation)

/-- What a name leads to in the end, it was last set to, or it led to from the
start. -/
theorem get?_performAll
    (scope : Variables)
    (operations : List Operation)
    (name : String)
    (value : Value) :
    (scope.performAll operations).get? name = some value ↔
      LastSet operations name value ∨
        (∀ operation ∈ operations, ¬ operation.Decides name) ∧
          scope.get? name = some value := by
  induction operations generalizing scope with
  | nil =>
      have notSet : ¬ LastSet [] name value := by
        rintro ⟨before, behind, isCut, _⟩
        exact List.append_ne_nil_of_right_ne_nil before
          (List.cons_ne_nil _ _) isCut.symm
      rw [or_iff_right notSet]
      exact (and_iff_right fun _ => nofun).symm
  | cons operation operations ih =>
      show ((scope.perform operation).2.performAll operations).get? name =
        some value ↔ _
      rw [ih, get?_perform, lastSet_cons, List.forall_mem_cons, and_or_left,
        or_assoc, and_comm (a := operation = _), and_assoc, and_left_comm]

/-- A store is a finite map in the order of the bytes of its names, after
any operations on a new one.  Each name is there once, and has the value
that it was last set to.  Setting and removing give the previous value of
their name and leave the others as they are, asking leaves all as it is, and
halving finds the place of a name. -/
theorem performAll_isMap
    (parent : Option Resolver)
    (operations : List Operation) :
    let scope := ({ parent } : Variables).performAll operations
    (scope.entries.Pairwise fun entry later =>
      Text.bytes entry.1 < Text.bytes later.1) ∧
        (∀ name value, (name, value) ∈ scope.entries ↔
          scope.get? name = some value) ∧
        (∀ names : List String, names.Nodup →
          (∀ name, name ∈ names ↔ (scope.get? name).isSome) →
            names.length = scope.size) ∧
        (scope.size = 0 ↔ ∀ name, scope.get? name = none) ∧
        (∀ name value, scope.get? name = some value ↔
          LastSet operations name value) ∧
        (∀ name value,
          (scope.set name value).1 = scope.get? name ∧
            (scope.set name value).2.get? name = some value ∧
            (∀ other, other ≠ name →
              (scope.set name value).2.get? other = scope.get? other) ∧
            (scope.set name value).2.parent = scope.parent) ∧
        (∀ name,
          (scope.unset name).1 = scope.get? name ∧
            (scope.unset name).2.get? name = none ∧
            (∀ other, other ≠ name →
              (scope.unset name).2.get? other = scope.get? other) ∧
            (scope.unset name).2.parent = scope.parent) ∧
        (∀ question, (scope.perform (.ask question)).2 = scope) ∧
        ∀ name value,
          (scope.set name value).2.entries =
              (match scope.find name with
                | .ok index => scope.entries.set index (name, value)
                | .error index => scope.entries.insertIdx index (name, value)) ∧
            (scope.unset name).2.entries =
              (match scope.find name with
                | .ok index => scope.entries.eraseIdx index
                | .error _ => scope.entries) ∧
            scope.get? name =
              (match scope.find name with
                | .ok index => scope.entries[index]?.map Prod.snd
                | .error _ => none) := by
  intro scope
  have empty : Ordered ({ parent } : Variables).entries := List.Pairwise.nil
  have ordered : Ordered scope.entries := empty.performAll operations
  refine ⟨?_, ordered.mem_iff, ?_, scope.size_eq_zero_iff, ?_, ?_, ?_, ?_, ?_⟩
  · exact ordered.imp Text.bytes_lt_bytes_iff.mpr
  · intro names distinct complete
    exact scope.length_eq_size ordered distinct complete
  · intro name value
    have unset : ({ parent } : Variables).get? name ≠ some value := nofun
    rw [get?_performAll, or_iff_left fun kept => unset kept.2]
  · intro name value
    exact ⟨rfl, scope.get?_set_self name value,
      fun _ => scope.get?_set_of_ne value, rfl⟩
  · intro name
    exact ⟨rfl, scope.get?_unset_self name, fun _ => scope.get?_unset_of_ne, rfl⟩
  · intro question
    rfl
  · intro name value
    exact entries_eq_of_place ordered value _ (scope.find_place ordered name)

end Formula.Variables
