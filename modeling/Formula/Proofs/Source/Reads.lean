import Formula.Proofs.Source.Models

/-!
# What a reader reads

`Reads` says which characters lie between two readers of one text.  Every way to
read on takes exactly the characters that it returns, looking ahead takes none,
and where no character was lost the latest mark leads back.
-/

namespace Formula

namespace Reader

/-- Reading `chars` leads from one reader to the other. -/
structure Reads (start : Reader) (chars : List Char) (last : Reader) : Prop where
  rest_eq : start.rest = chars ++ last.rest
  past_eq : last.past = chars.reverse ++ start.past

variable {start middle last : Reader} {chars more : List Char}

theorem Reads.refl (start : Reader) : Reads start [] start where
  rest_eq := rfl
  past_eq := rfl

theorem Reads.trans
    (first : Reads start chars middle)
    (second : Reads middle more last) :
    Reads start (chars ++ more) last where
  rest_eq := by rw [first.rest_eq, second.rest_eq, List.append_assoc]
  past_eq := by
    rw [second.past_eq, first.past_eq, List.reverse_append, List.append_assoc]

/-- Where nothing was read, the reader is the same. -/
theorem Reads.eq_of_nil (reads : Reads start [] last) : last = start := by
  rcases start with ⟨past, rest⟩
  rcases last with ⟨past', rest'⟩
  obtain rfl : rest = rest' := reads.rest_eq
  obtain rfl : past' = past := reads.past_eq
  rfl

theorem Reads.cons
    {c : Char}
    (first : Reads start [c] middle)
    (second : Reads middle more last) :
    Reads start (c :: more) last :=
  first.trans second

theorem reads_cons
    (past rest : List Char)
    (c : Char) :
    Reads ⟨past, c :: rest⟩ [c] ⟨c :: past, rest⟩ where
  rest_eq := rfl
  past_eq := rfl

/-- Reading does not change the text. -/
theorem Reads.whole_eq
    (reads : Reads start chars last) :
    last.whole = start.whole := by
  simp [whole, reads.rest_eq, reads.past_eq]

/-! ## Ways to read -/

theorem reads_of_next
    {c : Char}
    (read : CharSource.next start = some (c, last)) :
    Reads start [c] last := by
  rcases next_eq_some_iff.mp read with ⟨rest, past⟩
  exact ⟨rest, past⟩

theorem reads_take (start : Reader) :
    Reads start (CharSource.take start).1.toList (CharSource.take start).2 := by
  rw [CharSource.take]
  split
  case h_1 read => exact reads_of_next read
  case h_2 => exact .refl start

theorem reads_takeIf
    (p : Char → Bool)
    (start : Reader) :
    Reads start (CharSource.takeIf p start).1.toList
      (CharSource.takeIf p start).2 := by
  rcases start with ⟨past, rest⟩
  cases holds : rest[0]?.any p with
  | false =>
      rw [takeIf_neg past rest holds]
      exact .refl _
  | true =>
      rcases rest with _ | ⟨c, rest⟩
      · cases holds
      · rw [takeIf_cons_pos past rest holds]
        exact reads_cons past rest c

theorem of_takeIf
    {p : Char → Bool}
    {c : Char}
    (taken : CharSource.takeIf p start = (some c, last)) :
    p c := by
  rcases start with ⟨past, rest⟩
  cases holds : rest[0]?.any p with
  | false =>
      rw [takeIf_neg past rest holds] at taken
      cases taken
  | true =>
      rcases rest with _ | ⟨d, rest⟩
      · cases holds
      · rw [takeIf_cons_pos past rest holds] at taken
        cases taken
        exact holds

theorem reads_readWhile
    (p : Char → Bool)
    (start : Reader) :
    Reads start (CharSource.readWhile p start).1
      (CharSource.readWhile p start).2 := by
  rcases start with ⟨past, rest⟩
  rw [readWhile_eq]
  exact ⟨List.takeWhile_append_dropWhile.symm, rfl⟩

theorem of_mem_readWhile
    {p : Char → Bool}
    {c : Char}
    (isMember : c ∈ (CharSource.readWhile p start).1) :
    p c := by
  rcases start with ⟨past, rest⟩
  rw [readWhile_eq] at isMember
  exact List.all_eq_true.mp List.all_takeWhile c isMember

/-! ## Ways to look ahead -/

@[simp]
theorem snd_sees
    (p : Char → Bool)
    (start : Reader) :
    (CharSource.sees p start).2 = start := by
  rw [sees_eq]

@[simp]
theorem snd_seesNext
    (p : Char → Bool)
    (start : Reader) :
    (CharSource.seesNext p start).2 = start := by
  rw [seesNext_eq]

@[simp]
theorem snd_mark (start : Reader) : (CharSource.mark start).2 = start :=
  rfl

/-- Going back to a mark leads to the reader that set it. -/
theorem reset_mark_of_reads (reads : Reads start chars last) :
    CharSource.reset (CharSource.mark start).1 last = some start :=
  reset_mark reads.whole_eq

end Reader

end Formula
