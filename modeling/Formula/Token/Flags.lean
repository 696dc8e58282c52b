/-!
# Reading modes

How the next token is to be read.  The meaning of a sign or of a word depends
on what may stand at its place, which only the caller knows.
-/

namespace Formula

/-- Options for reading a token; all are off by default. -/
structure Flags where
  /-- Read a new token instead of staying at the current one. -/
  get : Bool := false
  /-- A sign is always an operator, never part of a number. -/
  splitSigns : Bool := false
  /-- No word is reserved: every word is a bareword. -/
  plainWords : Bool := false
  /-- Words that are not reserved are barewords instead of errors. -/
  barewords : Bool := false
  deriving DecidableEq, Repr

namespace Flags

/-- The options that are on in one of two sets or in both. -/
def union (left right : Flags) : Flags :=
  ⟨left.get || right.get, left.splitSigns || right.splitSigns,
    left.plainWords || right.plainWords, left.barewords || right.barewords⟩

/-- The options that are on in both of two sets. -/
def inter (left right : Flags) : Flags :=
  ⟨left.get && right.get, left.splitSigns && right.splitSigns,
    left.plainWords && right.plainWords, left.barewords && right.barewords⟩

/-- Whether all options of `right` are on in `left`. -/
def contains (left right : Flags) : Bool :=
  left.inter right = right

/-- In front of an operand: words may be names, numbers may have a sign. -/
def operand : Flags :=
  ⟨true, false, false, true⟩

/-- Behind an operand: signs are operators, words are reserved. -/
def operator : Flags :=
  ⟨true, true, false, false⟩

end Flags

end Formula
