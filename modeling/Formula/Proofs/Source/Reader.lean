import Formula.Source.Basic

/-!
# The abstract reader

A reader is a text that is cut in two: what has been read, and what is still to
come.  It is the plainest source of characters there is.  Every other source is
compared with it, and what a scanner does is said of readers.
-/

namespace Formula

/-- The place behind characters, the latest of which comes first. -/
def Place.behind (past : List Char) : Place :=
  past.foldr (fun c place => place.after c) {}

@[simp]
theorem Place.behind_nil : Place.behind [] = {} :=
  rfl

@[simp]
theorem Place.behind_cons
    (c : Char)
    (past : List Char) :
    Place.behind (c :: past) = (Place.behind past).after c :=
  rfl

/-- A line starts behind every line feed, and a column counts from there. -/
theorem Place.behind_eq (past : List Char) :
    Place.behind past =
      ⟨1 + past.count '\n', 1 + (past.takeWhile (· ≠ '\n')).length⟩ := by
  induction past with
  | nil => rfl
  | cons c past ih =>
      rw [Place.behind_cons, ih, Place.after]
      split
      case isTrue isFeed =>
          subst isFeed
          simp [Nat.add_assoc]
      case isFalse notFeed =>
          simp [notFeed, Nat.add_assoc]

/-- The characters that were read, the latest first, and those to come. -/
structure Reader where
  past : List Char
  rest : List Char
  deriving DecidableEq, Repr

namespace Reader

/-- The reader in front of a text. -/
def ofList (chars : List Char) : Reader :=
  ⟨[], chars⟩

/-- The whole text of a reader. -/
def whole (reader : Reader) : List Char :=
  reader.past.reverse ++ reader.rest

/-- The reader behind the first `count` characters of a text. -/
def cut (count : Nat) (chars : List Char) : Reader :=
  ⟨(chars.take count).reverse, chars.drop count⟩

/-- Reads the next character. -/
def next (reader : Reader) : Option (Char × Reader) :=
  match reader.rest with
  | [] => none
  | c :: rest => some (c, ⟨c :: reader.past, rest⟩)

/-- The place of the next character. -/
def place (reader : Reader) : Place :=
  .behind reader.past

/-- The position of the reader. -/
def mark (reader : Reader) : Mark :=
  ⟨reader.past.length, reader.place⟩

/-- The reader at a mark, which has to lie in its text. -/
def reset (mark : Mark) (reader : Reader) : Option Reader :=
  if mark.offset ≤ reader.whole.length then some (cut mark.offset reader.whole)
  else none

@[simp]
theorem next_nil (past : List Char) : next ⟨past, []⟩ = none :=
  rfl

@[simp]
theorem next_cons
    (past rest : List Char)
    (c : Char) :
    next ⟨past, c :: rest⟩ = some (c, ⟨c :: past, rest⟩) :=
  rfl

theorem next_eq_some_iff
    {reader after : Reader}
    {c : Char} :
    reader.next = some (c, after) ↔
      reader.rest = c :: after.rest ∧ after.past = c :: reader.past := by
  rcases reader with ⟨past, _ | ⟨first, rest⟩⟩ <;> rcases after with ⟨past', rest'⟩
  · simp
  · simp only [next_cons, Option.some.injEq, Prod.mk.injEq, mk.injEq,
      List.cons.injEq]
    constructor
    · rintro ⟨rfl, rfl, rfl⟩
      exact ⟨⟨rfl, rfl⟩, rfl⟩
    · rintro ⟨⟨rfl, rfl⟩, rfl⟩
      exact ⟨rfl, rfl, rfl⟩

/-- A reader is its whole text, cut behind what it has read. -/
theorem cut_whole
    (reader : Reader) :
    cut reader.past.length reader.whole = reader := by
  simp [cut, whole]

theorem whole_cut
    (count : Nat)
    (chars : List Char) :
    (cut count chars).whole = chars := by
  simp [cut, whole]

theorem whole_of_next
    {reader after : Reader}
    {c : Char}
    (read : reader.next = some (c, after)) :
    after.whole = reader.whole := by
  rcases next_eq_some_iff.mp read with ⟨rest, past⟩
  simp [whole, rest, past]

theorem length_whole (reader : Reader) :
    reader.whole.length = reader.past.length + reader.rest.length := by
  simp [whole]

theorem eq_of_reset
    {mark : Mark}
    {reader after : Reader}
    (done : reader.reset mark = some after) :
    after.past.length = mark.offset ∧ after.whole = reader.whole := by
  simp only [reset] at done
  split at done
  case isTrue within =>
    obtain rfl := Option.some.inj done
    constructor
    · simp only [cut, List.length_reverse, List.length_take]
      omega
    · exact whole_cut _ _
  case isFalse => simp at done

instance : CharSource Reader where
  next := next
  peek reader := (reader.rest[0]?, reader)
  peekNext reader := (reader.rest[1]?, reader)
  mark reader := (reader.mark, reader)
  reset := reset
  place := place
  offset reader := reader.past.length
  total reader := reader.whole.length
  offset_next read := by
    rcases next_eq_some_iff.mp read with ⟨_, past⟩
    simp [past]
  offset_le reader := by
    rw [length_whole]
    exact Nat.le_add_right _ _
  total_next read := by
    rw [whole_of_next read]
  offset_peek _ := rfl
  total_peek _ := rfl
  offset_peekNext _ := rfl
  total_peekNext _ := rfl
  offset_mark _ := ⟨rfl, rfl⟩
  total_mark _ := rfl
  offset_reset done := (eq_of_reset done).1
  total_reset done := by
    rw [(eq_of_reset done).2]

/-! ## How readers read -/

variable (past rest : List Char)

@[simp]
theorem source_next_nil : CharSource.next (⟨past, []⟩ : Reader) = none :=
  rfl

@[simp]
theorem source_next_cons (c : Char) :
    CharSource.next (⟨past, c :: rest⟩ : Reader) = some (c, ⟨c :: past, rest⟩) :=
  rfl

@[simp]
theorem source_peek :
    CharSource.peek (⟨past, rest⟩ : Reader) = (rest[0]?, ⟨past, rest⟩) :=
  rfl

@[simp]
theorem take_cons (c : Char) :
    CharSource.take (⟨past, c :: rest⟩ : Reader) = (some c, ⟨c :: past, rest⟩) :=
  rfl

@[simp]
theorem sees_eq (p : Char → Bool) :
    CharSource.sees p (⟨past, rest⟩ : Reader) =
      (rest[0]?.any p, ⟨past, rest⟩) := by
  cases rest <;> rfl

@[simp]
theorem seesNext_eq (p : Char → Bool) :
    CharSource.seesNext p (⟨past, rest⟩ : Reader) =
      (rest[1]?.any p, ⟨past, rest⟩) := by
  rcases rest with _ | ⟨_, _ | _⟩ <;> rfl

theorem takeIf_cons_pos
    {p : Char → Bool}
    {c : Char}
    (holds : p c = true) :
    CharSource.takeIf p (⟨past, c :: rest⟩ : Reader) =
      (some c, ⟨c :: past, rest⟩) := by
  simp [CharSource.takeIf, holds]

theorem takeIf_neg
    {p : Char → Bool}
    (fails : rest[0]?.any p = false) :
    CharSource.takeIf p (⟨past, rest⟩ : Reader) = (none, ⟨past, rest⟩) := by
  cases rest with
  | nil => rfl
  | cons c rest => simp_all [CharSource.takeIf]

/-- A run of characters is what a list calls its longest such prefix. -/
@[simp]
theorem readWhile_eq (p : Char → Bool) :
    CharSource.readWhile p (⟨past, rest⟩ : Reader) =
      (rest.takeWhile p,
        ⟨(rest.takeWhile p).reverse ++ past, rest.dropWhile p⟩) := by
  induction rest generalizing past with
  | nil =>
      rw [CharSource.readWhile]
      rfl
  | cons c rest ih =>
      rw [CharSource.readWhile]
      cases holds : p c with
      | true =>
          rw [takeIf_cons_pos past rest holds]
          simp [ih, holds]
      | false =>
          rw [takeIf_neg past (c :: rest) (by simpa using holds)]
          simp [holds]

/-- A run ends in front of a character that does not belong to it. -/
theorem readWhile_append
    {p : Char → Bool}
    {run : List Char}
    (belongs : ∀ c ∈ run, p c)
    (ends : rest[0]?.any p = false) :
    CharSource.readWhile p (⟨past, run ++ rest⟩ : Reader) =
      (run, ⟨run.reverse ++ past, rest⟩) := by
  have nothing : rest.takeWhile p = [] ∧ rest.dropWhile p = rest := by
    cases rest with
    | nil => exact ⟨rfl, rfl⟩
    | cons c rest => simp_all
  rw [readWhile_eq, List.takeWhile_append_of_pos belongs,
    List.dropWhile_append_of_pos belongs, nothing.1, nothing.2, List.append_nil]

end Reader

end Formula
