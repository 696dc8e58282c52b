/-!
# Sources of characters

A source hands out the characters of a text one by one, lets its reader look
two characters ahead, and can go back to a position that was marked before.
The laws of `CharSource` say that a source is a finite text with an offset into
it, which is what makes reading loops end.
-/

namespace Formula

/-- A place in a text: its line and the column in that line, both from one. -/
structure Place where
  line : Nat := 1
  column : Nat := 1
  deriving DecidableEq, Repr

/-- The place behind a character.  A line feed starts a new line. -/
def Place.after (place : Place) (c : Char) : Place :=
  if c = '\n' then ⟨place.line + 1, 1⟩
  else ⟨place.line, place.column + 1⟩

/-- A position to come back to. -/
structure Mark where
  offset : Nat
  place : Place
  deriving DecidableEq, Repr

/--
A finite text that is read from front to back.  Looking ahead and marking may
change how a source keeps its text, but not what is left to read.
-/
class CharSource (σ : Type) where
  /-- The next character, and the source behind it. -/
  next : σ → Option (Char × σ)
  /-- The next character, without reading it. -/
  peek : σ → Option Char × σ
  /-- The character after the next one, without reading either. -/
  peekNext : σ → Option Char × σ
  /-- The current position, kept for `reset`. -/
  mark : σ → Mark × σ
  /-- The source at a marked position, unless the mark is no longer honoured. -/
  reset : Mark → σ → Option σ
  /-- The place of the next character. -/
  place : σ → Place
  /-- How much has been read. -/
  offset : σ → Nat
  /-- How much there is to read from start to end. -/
  total : σ → Nat
  offset_next : ∀ {s c s'}, next s = some (c, s') → offset s < offset s'
  offset_le : ∀ s, offset s ≤ total s
  total_next : ∀ {s c s'}, next s = some (c, s') → total s' = total s
  offset_peek : ∀ s, offset (peek s).2 = offset s
  total_peek : ∀ s, total (peek s).2 = total s
  offset_peekNext : ∀ s, offset (peekNext s).2 = offset s
  total_peekNext : ∀ s, total (peekNext s).2 = total s
  offset_mark : ∀ s, offset (mark s).2 = offset s ∧ (mark s).1.offset = offset s
  total_mark : ∀ s, total (mark s).2 = total s
  offset_reset : ∀ {m s s'}, reset m s = some s' → offset s' = m.offset
  total_reset : ∀ {m s s'}, reset m s = some s' → total s' = total s

namespace CharSource

/-- What is said of a reset to a mark that is no longer honoured. -/
def staleMark : String :=
  "Can only reset to the most recent mark"

variable {σ : Type} [CharSource σ]

/-- How much is left to read. -/
def remaining (s : σ) : Nat :=
  total s - offset s

theorem remaining_next
    {s s' : σ}
    {c : Char}
    (read : next s = some (c, s')) :
    remaining s' < remaining s := by
  have later := offset_next read
  have within := offset_le s'
  have same := total_next read
  simp only [remaining]
  omega

@[simp]
theorem remaining_peek (s : σ) : remaining (peek s).2 = remaining s := by
  simp [remaining, offset_peek, total_peek]

@[simp]
theorem remaining_peekNext (s : σ) : remaining (peekNext s).2 = remaining s := by
  simp [remaining, offset_peekNext, total_peekNext]

@[simp]
theorem remaining_mark (s : σ) : remaining (mark s).2 = remaining s := by
  simp [remaining, (offset_mark s).1, total_mark]

/-- Reads the next character if there is one. -/
def take (s : σ) : Option Char × σ :=
  match next s with
  | some (c, s') => (some c, s')
  | none => (none, s)

/-- Reads the next character if it satisfies `p`. -/
def takeIf (p : Char → Bool) (s : σ) : Option Char × σ :=
  match peek s with
  | (some c, s') => if p c then take s' else (none, s')
  | (none, s') => (none, s')

/-- Whether the next character satisfies `p`. -/
def sees (p : Char → Bool) (s : σ) : Bool × σ :=
  match peek s with
  | (some c, s') => (p c, s')
  | (none, s') => (false, s')

/-- Whether the character after the next one satisfies `p`. -/
def seesNext (p : Char → Bool) (s : σ) : Bool × σ :=
  match peekNext s with
  | (some c, s') => (p c, s')
  | (none, s') => (false, s')

theorem remaining_take_lt
    {s s' : σ}
    {c : Char}
    (taken : take s = (some c, s')) :
    remaining s' < remaining s := by
  rw [take] at taken
  split at taken
  · rename_i read
    simp only [Prod.mk.injEq, Option.some.injEq] at taken
    obtain ⟨rfl, rfl⟩ := taken
    exact remaining_next read
  · simp at taken

theorem remaining_take_le (s : σ) : remaining (take s).2 ≤ remaining s := by
  rw [take]
  split
  · rename_i read
    exact Nat.le_of_lt (remaining_next read)
  · exact Nat.le_refl _

theorem remaining_takeIf_lt
    {p : Char → Bool}
    {s s' : σ}
    {c : Char}
    (taken : takeIf p s = (some c, s')) :
    remaining s' < remaining s := by
  have looked := remaining_peek s
  rw [takeIf] at taken
  split at taken
  · rename_i seen
    rw [seen] at looked
    split at taken
    · exact looked ▸ remaining_take_lt taken
    · simp at taken
  · simp at taken

theorem remaining_takeIf_le
    (p : Char → Bool)
    (s : σ) :
    remaining (takeIf p s).2 ≤ remaining s := by
  have looked := remaining_peek s
  rw [takeIf]
  split
  · rename_i seen
    rw [seen] at looked
    split
    · exact looked ▸ remaining_take_le _
    · exact Nat.le_of_eq looked
  · rename_i seen
    rw [seen] at looked
    exact Nat.le_of_eq looked

@[simp]
theorem remaining_sees
    (p : Char → Bool)
    (s : σ) :
    remaining (sees p s).2 = remaining s := by
  have looked := remaining_peek s
  rw [sees]
  split <;> rename_i seen <;> rw [seen] at looked <;> exact looked

@[simp]
theorem remaining_seesNext
    (p : Char → Bool)
    (s : σ) :
    remaining (seesNext p s).2 = remaining s := by
  have looked := remaining_peekNext s
  rw [seesNext]
  split <;> rename_i seen <;> rw [seen] at looked <;> exact looked

/-- Reads the longest run of characters that satisfy `p`. -/
def readWhile (p : Char → Bool) (s : σ) : List Char × σ :=
  match _taken : takeIf p s with
  | (some c, s') =>
    let (run, rest) := readWhile p s'
    (c :: run, rest)
  | (none, s') => ([], s')
termination_by remaining s
decreasing_by exact remaining_takeIf_lt _taken

theorem remaining_readWhile_le
    (p : Char → Bool)
    (s : σ) :
    remaining (readWhile p s).2 ≤ remaining s := by
  fun_induction readWhile p s with
  | case1 s c s' taken _ _ both ih =>
      have shorter := remaining_takeIf_lt taken
      rw [both] at ih
      simp only at ih ⊢
      omega
  | case2 s s' taken =>
      have bound := remaining_takeIf_le p s
      rwa [taken] at bound

end CharSource

end Formula
