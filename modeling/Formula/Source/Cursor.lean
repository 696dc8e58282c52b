import Formula.Source.Basic
import Formula.Text.Quoted

/-!
# A cursor in a text

A source over a text that is there as a whole.  The cursor is a position between
two characters, so it can go back to any mark it ever gave.
-/

namespace Formula

/-- A position in a text, together with its place. -/
structure Cursor where
  text : String
  pos : text.Pos
  place : Place := {}

namespace Cursor

/-- The cursor in front of a text. -/
def ofString (text : String) : Cursor :=
  ⟨text, text.startPos, {}⟩

/-- The text behind the cursor. -/
def rest (cursor : Cursor) : String :=
  (cursor.text.sliceFrom cursor.pos).copy

/-- Whether nothing is left to read. -/
def isAtEnd (cursor : Cursor) : Bool :=
  cursor.pos = cursor.text.endPos

/-- Reads the next character. -/
def next (cursor : Cursor) : Option (Char × Cursor) :=
  if more : cursor.pos ≠ cursor.text.endPos then
    let c := cursor.pos.get more
    some (c, ⟨cursor.text, cursor.pos.next more, cursor.place.after c⟩)
  else
    none

/-- The next character. -/
def peek? (cursor : Cursor) : Option Char :=
  cursor.next.map (·.1)

/-- The character after the next one. -/
def peekNext? (cursor : Cursor) : Option Char :=
  cursor.next.bind (·.2.peek?)

/-- The position of the cursor. -/
def mark (cursor : Cursor) : Mark :=
  ⟨cursor.pos.offset.byteIdx, cursor.place⟩

/-- The cursor at a mark, which has to lie between two characters. -/
def reset (mark : Mark) (cursor : Cursor) : Option Cursor :=
  if valid : String.Pos.Raw.IsValid cursor.text ⟨mark.offset⟩ then
    some ⟨cursor.text, ⟨⟨mark.offset⟩, valid⟩, mark.place⟩
  else
    none

instance : CharSource Cursor where
  next := next
  peek cursor := (cursor.peek?, cursor)
  peekNext cursor := (cursor.peekNext?, cursor)
  mark cursor := (cursor.mark, cursor)
  reset := reset
  place := place
  offset cursor := cursor.pos.offset.byteIdx
  total cursor := cursor.text.utf8ByteSize
  offset_next := by
    intro cursor c cursor' read
    rw [next] at read
    split at read
    · simp only [Option.some.injEq, Prod.mk.injEq] at read
      obtain ⟨_, rfl⟩ := read
      simp [Char.utf8Size_pos]
    · simp at read
  offset_le cursor := String.Pos.byteIdx_offset_le_utf8ByteSize
  total_next := by
    intro cursor c cursor' read
    rw [next] at read
    split at read
    · simp only [Option.some.injEq, Prod.mk.injEq] at read
      obtain ⟨_, rfl⟩ := read
      rfl
    · simp at read
  offset_peek _ := rfl
  total_peek _ := rfl
  offset_peekNext _ := rfl
  total_peekNext _ := rfl
  offset_mark _ := ⟨rfl, rfl⟩
  total_mark _ := rfl
  offset_reset := by
    intro mark cursor cursor' done
    rw [reset] at done
    split at done
    · simp only [Option.some.injEq] at done
      subst done
      rfl
    · simp at done
  total_reset := by
    intro mark cursor cursor' done
    rw [reset] at done
    split at done
    · simp only [Option.some.injEq] at done
      subst done
      rfl
    · simp at done

/-- Two cursors are alike if they stand at the same offset of the same text. -/
instance : BEq Cursor where
  beq left right :=
    left.text == right.text && left.pos.offset.byteIdx == right.pos.offset.byteIdx

/-- The cursor's place, for people to read. -/
def describe (cursor : Cursor) : String :=
  let place := cursor.place
  s!"Cursor \x7b line: Line({place.line}), col: Col({place.column}) \x7d"

/-- The cursor's place and text, one field to a line. -/
def describeFully (cursor : Cursor) : String :=
  let field (name value : String) := s!"    {name}: {value},\n"
  let nested (name : String) (n : Nat) := s!"{name}(\n        {n},\n    )"
  "Cursor \x7b\n" ++ field "line" (nested "Line" cursor.place.line) ++
    field "col" (nested "Col" cursor.place.column) ++
    field "source" (Text.diagnostic cursor.text) ++ "\x7d"

end Cursor

end Formula
