import Formula.Proofs.Shown.Values
import Formula.Proofs.Store.Map
import Mathlib.Data.List.Basic
import Mathlib.Data.List.Induction

/-!
# Names of indexed variables

The name under which an indexed variable is stored ends with the digits of its
last index, and there is no underscore in them.  So the last index and the name
without it can be told from the composed name.  What cannot be told is where the
name of the variable itself ends, since it may look like a composed name.  This
is the only way in which two variables come to be stored under the same name: one
of them is named like an element of the other.
-/

namespace Formula

/-! ## Composed names -/

/-- A name is composed index by index. -/
theorem indexedName_append
    (name : String)
    (front back : List Int64) :
    indexedName name (front ++ back) = indexedName (indexedName name front) back :=
  List.foldl_append

theorem toList_indexedName_concat
    (name : String)
    (front : List Int64)
    (index : Int64) :
    (indexedName name (front ++ [index])).toList =
      (indexedName name front).toList ++ '_' :: (toString index.toInt).toList := by
  have composed : indexedName name (front ++ [index]) =
      indexedName name front ++ "_" ++ toString index.toInt :=
    indexedName_append name front [index]
  rw [composed, String.toList_append, String.toList_append, List.append_assoc]
  rfl

/-- A composed name starts with the name of the variable. -/
theorem toList_indexedName
    (name : String)
    (indices : List Int64) :
    ∃ tail, (indexedName name indices).toList = name.toList ++ tail := by
  rw [indexedName]
  induction indices generalizing name with
  | nil => exact ⟨[], (List.append_nil _).symm⟩
  | cons index rest ih =>
      rcases ih (name ++ "_" ++ toString index.toInt) with ⟨tail, composed⟩
      refine ⟨"_".toList ++ ((toString index.toInt).toList ++ tail), ?_⟩
      rw [List.foldl_cons, composed]
      simp only [String.toList_append, List.append_assoc]

/-- The text of an integer has no underscore in it. -/
theorem underscore_not_mem_intText (n : Int) : '_' ∉ (toString n).toList := by
  intro isMember
  rcases Shown.mem_intText isMember with digit | isSign | isSign
  · exact absurd digit (by decide)
  · exact absurd isSign (by decide)
  · exact absurd isSign (by decide)

/-- A text is cut at its last separator. -/
theorem append_separator_inj
    {α : Type}
    {separator : α}
    {front front' tail tail' : List α}
    (last : separator ∉ tail)
    (last' : separator ∉ tail')
    (same : front ++ separator :: tail = front' ++ separator :: tail') :
    front = front' ∧ tail = tail' := by
  rcases List.append_eq_append_iff.mp same with
    ⟨more, rfl, split⟩ | ⟨more, rfl, split⟩
  · rcases List.cons_eq_append_iff.mp split with ⟨rfl, isTail⟩ | ⟨more, rfl, rfl⟩
    · exact ⟨(List.append_nil _).symm, (List.cons.inj isTail).2.symm⟩
    · exact absurd (List.mem_append_right more List.mem_cons_self) last
  · rcases List.cons_eq_append_iff.mp split with ⟨rfl, isTail⟩ | ⟨more, rfl, rfl⟩
    · exact ⟨List.append_nil _, (List.cons.inj isTail).2⟩
    · exact absurd (List.mem_append_right more List.mem_cons_self) last'

variable {name name' : String} {front front' indices indices' : List Int64}
  {index index' : Int64}

/-- The last index can be told from a composed name, and so can the name without
it. -/
theorem indexedName_concat_inj
    (same : indexedName name (front ++ [index]) =
      indexedName name' (front' ++ [index'])) :
    indexedName name front = indexedName name' front' ∧ index = index' := by
  have sameChars := congrArg String.toList same
  rw [toList_indexedName_concat, toList_indexedName_concat] at sameChars
  rcases append_separator_inj (underscore_not_mem_intText _)
    (underscore_not_mem_intText _) sameChars with ⟨sameFront, sameIndex⟩
  exact ⟨String.toList_inj.mp sameFront,
    Shown.int_eq_of_text_eq (String.toList_inj.mp sameIndex)⟩

/-! ## Collisions -/

/-- One variable is named like an element of the other one, which is indexed
accordingly. -/
def Overlaps
    (name : String)
    (indices : List Int64)
    (name' : String)
    (indices' : List Int64) :
    Prop :=
  ∃ more, name' = indexedName name more ∧ indices = more ++ indices'

theorem Overlaps.indexedName_eq (overlaps : Overlaps name indices name' indices') :
    indexedName name indices = indexedName name' indices' := by
  rcases overlaps with ⟨more, rfl, rfl⟩
  exact indexedName_append name more indices'

theorem Overlaps.concat
    (overlaps : Overlaps name front name' front')
    (index : Int64) :
    Overlaps name (front ++ [index]) name' (front' ++ [index]) := by
  rcases overlaps with ⟨more, rfl, rfl⟩
  exact ⟨more, rfl, List.append_assoc more front' [index]⟩

/-- Equal names overlap.  The induction takes one index after the other from
their ends, until one of the names has none left. -/
theorem overlaps_of_indexedName_eq
    (same : indexedName name indices = indexedName name' indices') :
    Overlaps name indices name' indices' ∨
      Overlaps name' indices' name indices := by
  induction indices using List.reverseRecOn generalizing indices' with
  | nil => exact .inr ⟨indices', same, (List.append_nil indices').symm⟩
  | append_singleton front index ih =>
      rcases List.eq_nil_or_concat' indices' with rfl | ⟨front', index', rfl⟩
      · exact .inl ⟨front ++ [index], same.symm, (List.append_nil _).symm⟩
      · rcases indexedName_concat_inj same with ⟨sameFront, rfl⟩
        exact (ih sameFront).imp (·.concat index) (·.concat index)

/-- An index list can be told from the composed name if the name of the variable
is known. -/
theorem indexedName_injective
    (name : String) :
    Function.Injective (indexedName name) := by
  -- Going on with indices makes a name longer, so that no name is its own element.
  have longer (more : List Int64) (same : name = indexedName name more) :
      more = [] := by
    rcases List.eq_nil_or_concat' more with rfl | ⟨front, index, rfl⟩
    · rfl
    · have sameLength := congrArg (·.toList.length) same
      rcases toList_indexedName name front with ⟨tail, starts⟩
      simp only [toList_indexedName_concat, starts, List.length_append,
        List.length_cons]
        at sameLength
      omega
  intro indices indices' same
  rcases overlaps_of_indexedName_eq same with
    ⟨more, isName, rfl⟩ | ⟨more, isName, rfl⟩
  · rw [longer more isName, List.nil_append]
  · rw [longer more isName, List.nil_append]

namespace Variables

/-- An element is what was stored under its name, as long as its name is the
same. -/
theorem lookup_set
    (scope : Variables)
    (name stored : String)
    (indices : List Int64)
    (value : Value) :
    (scope.set stored value).2.resolver.lookup name indices =
      if indexedName name indices = stored then .ok value
      else scope.resolver.lookup name indices := by
  have sameParent : (scope.set stored value).2.parent = scope.parent := rfl
  split
  case isTrue isStored =>
    subst isStored
    simp only [resolver, get?_set_self]
  case isFalse isOther =>
      simp only [resolver, get?_set_of_ne scope value isOther, sameParent]

/--
Two variables are stored under the same name exactly if one is named like an
element of the other and indexed accordingly.  So the elements of one variable are
all stored apart, however many indices they have: whoever sets one of them changes
no other.
-/
theorem indexedName_eq_iff :
    (∀ (name name' : String) (indices indices' : List Int64),
        indexedName name indices = indexedName name' indices' ↔
          ∃ more : List Int64,
            (name' = indexedName name more ∧ indices = more ++ indices') ∨
              (name = indexedName name' more ∧ indices' = more ++ indices)) ∧
      (∀ name : String, Function.Injective (indexedName name)) ∧
      ∀ (scope : Variables) (name : String) (indices indices' : List Int64)
        (value : Value),
        (scope.set (indexedName name indices) value).2.resolver.lookup
          name indices' =
            if indices' = indices then .ok value
            else scope.resolver.lookup name indices' := by
  refine ⟨fun name name' indices indices' => ⟨fun same => ?_, ?_⟩,
    indexedName_injective, ?_⟩
  · rcases overlaps_of_indexedName_eq same with ⟨more, overlaps⟩ | ⟨more, overlaps⟩
    · exact ⟨more, .inl overlaps⟩
    · exact ⟨more, .inr overlaps⟩
  · rintro ⟨more, overlaps | overlaps⟩
    · exact Overlaps.indexedName_eq ⟨more, overlaps⟩
    · exact (Overlaps.indexedName_eq ⟨more, overlaps⟩).symm
  · intro scope name indices indices' value
    rw [lookup_set]
    simp only [(indexedName_injective name).eq_iff]

/-- The name of an element, and an element of a variable that is named like it. -/
example :
    indexedName "x" [1, -2] = "x_1_-2" ∧ indexedName "x_1" [-2] = "x_1_-2" := by
  decide +kernel

end Variables

end Formula
