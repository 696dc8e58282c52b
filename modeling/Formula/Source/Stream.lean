import Formula.Source.Basic

/-!
# A stream of characters

A source over characters that arrive one by one.  What has been read since the
latest mark is held, together with what was looked at ahead; older characters
are gone, and with them the marks before the latest one.
-/

namespace Formula

/--
Characters that are still to come, between them and the reader those that were
looked at ahead, and behind the reader those that are held, the latest one
first.  `base` is the offset of the first character that is held.
-/
structure CharStream where
  input : List Char
  ahead : List Char := []
  held : List Char := []
  base : Nat := 0
  place : Place := {}

namespace CharStream

/-- The stream of the characters of a list. -/
def ofList (chars : List Char) : CharStream where
  input := chars

/-- The offset of the next character from the start of the stream. -/
def offset (stream : CharStream) : Nat :=
  stream.base + stream.held.length

/-- How many characters the stream has in all. -/
def total (stream : CharStream) : Nat :=
  stream.offset + stream.ahead.length + stream.input.length

/-- The characters that are left to read. -/
def unread (stream : CharStream) : List Char :=
  stream.ahead ++ stream.input

/-- Takes characters in until `count` of them are ahead, as far as there are. -/
def fill (count : Nat) (stream : CharStream) : CharStream :=
  let missing := count - stream.ahead.length
  { stream with
    ahead := stream.ahead ++ stream.input.take missing
    input := stream.input.drop missing }

/-- Reads the next character. -/
def next (stream : CharStream) : Option (Char × CharStream) :=
  let filled := stream.fill 1
  match filled.ahead with
  | [] => none
  | c :: rest =>
    some (c,
      { filled with
        ahead := rest
        held := c :: filled.held
        place := filled.place.after c })

/-- The next character. -/
def peek (stream : CharStream) : Option Char × CharStream :=
  let filled := stream.fill 1
  (filled.ahead[0]?, filled)

/-- The character after the next one. -/
def peekNext (stream : CharStream) : Option Char × CharStream :=
  let filled := stream.fill 2
  (filled.ahead[1]?, filled)

/-- Marks the position of the stream, and drops what was read before it. -/
def mark (stream : CharStream) : Mark × CharStream :=
  (⟨stream.offset, stream.place⟩,
    { stream with held := [], base := stream.offset })

/-- The stream at a mark, as long as the characters from there on are held. -/
def reset (mark : Mark) (stream : CharStream) : Option CharStream :=
  if stream.base ≤ mark.offset ∧ mark.offset ≤ stream.offset then
    let back := stream.offset - mark.offset
    some
      { stream with
        ahead := (stream.held.take back).reverse ++ stream.ahead
        held := stream.held.drop back
        place := mark.place }
  else
    none

@[simp]
theorem offset_fill
    (count : Nat)
    (stream : CharStream) :
    (stream.fill count).offset = stream.offset :=
  rfl

@[simp]
theorem unread_fill
    (count : Nat)
    (stream : CharStream) :
    (stream.fill count).unread = stream.unread := by
  simp [fill, unread]

theorem total_eq (stream : CharStream) :
    stream.total = stream.offset + stream.unread.length := by
  simp [total, unread, Nat.add_assoc]

@[simp]
theorem total_fill
    (count : Nat)
    (stream : CharStream) :
    (stream.fill count).total = stream.total := by
  simp [total_eq]

/-- Reading moves the first of the unread characters behind the reader. -/
theorem eq_of_next
    {stream rest : CharStream}
    {c : Char}
    (read : stream.next = some (c, rest)) :
    rest.offset = stream.offset + 1 ∧ stream.unread = c :: rest.unread := by
  have same := unread_fill 1 stream
  simp only [next] at read
  cases ahead : (stream.fill 1).ahead with
  | nil => simp [ahead] at read
  | cons first others =>
      simp only [ahead, Option.some.injEq, Prod.mk.injEq] at read
      obtain ⟨rfl, rfl⟩ := read
      constructor
      · rfl
      · rw [← same]
        simp [unread, ahead]

theorem offset_of_reset
    {mark : Mark}
    {stream rest : CharStream}
    (done : stream.reset mark = some rest) :
    rest.offset = mark.offset := by
  simp only [reset] at done
  split at done
  case isTrue honoured =>
    simp only [offset] at honoured
    simp only [Option.some.injEq] at done
    subst done
    simp only [offset, List.length_drop]
    omega
  case isFalse => simp at done

theorem total_of_reset
    {mark : Mark}
    {stream rest : CharStream}
    (done : stream.reset mark = some rest) :
    rest.total = stream.total := by
  have there := offset_of_reset done
  simp only [reset] at done
  split at done
  case isTrue honoured =>
    simp only [Option.some.injEq] at done
    subst done
    simp only [offset, List.length_drop] at honoured there
    simp only [total, offset, List.length_drop, List.length_append,
      List.length_reverse, List.length_take]
    omega
  case isFalse => simp at done

instance : CharSource CharStream where
  next := next
  peek := peek
  peekNext := peekNext
  mark := mark
  reset := reset
  place := place
  offset := offset
  total := total
  offset_next read := by
    have := (eq_of_next read).1
    omega
  offset_le stream := by
    rw [total_eq]
    exact Nat.le_add_right _ _
  total_next read := by
    obtain ⟨offset, unread⟩ := eq_of_next read
    simp only [total_eq, offset, unread, List.length_cons]
    omega
  offset_peek := offset_fill 1
  total_peek := total_fill 1
  offset_peekNext := offset_fill 2
  total_peekNext := total_fill 2
  offset_mark _ := ⟨rfl, rfl⟩
  total_mark _ := rfl
  offset_reset := offset_of_reset
  total_reset := total_of_reset

end CharStream

end Formula
