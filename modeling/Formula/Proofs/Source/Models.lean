import Formula.Proofs.Source.Reader
import Formula.Proofs.Source.Simulation
import Formula.Source.Cursor
import Formula.Source.Stream

/-!
# Cursors and streams stand for readers

A cursor holds its text as a whole and a byte position in it; a stream holds the
characters since its latest mark and those it looked at ahead.  `Models` says
which reader each of them stands for.  Reading keeps this up, and so does going
back to the latest mark, so cursors and streams are alike to every scanner.
-/

namespace Formula

namespace Reader

/-- Going back to the mark of a reader leads to that reader, wherever in its
text. -/
theorem reset_mark
    {reader later : Reader}
    (sameText : later.whole = reader.whole) :
    later.reset reader.mark = some reader := by
  have within : reader.mark.offset ≤ later.whole.length := by
    rw [sameText, length_whole]
    exact Nat.le_add_right _ _
  rw [reset, if_pos within, sameText]
  exact congrArg some (cut_whole reader)

end Reader

/-! ## Cursors -/

namespace Cursor

/-- The cursor's position cuts the text where the reader is. -/
structure Models (text : String) (cursor : Cursor) (reader : Reader) : Prop where
  text_eq : cursor.text = text
  splits :
    cursor.pos.Splits (String.ofList reader.past.reverse)
      (String.ofList reader.rest)
  place_eq : cursor.place = reader.place

variable {text : String} {cursor later : Cursor} {reader laterReader : Reader}

theorem models_ofString (text : String) :
    Models text (ofString text) (Reader.ofList text.toList) where
  text_eq := rfl
  splits := by simp [ofString, Reader.ofList]
  place_eq := rfl

theorem Models.whole_eq (models : Models text cursor reader) :
    reader.whole = text.toList := by
  rw [← models.text_eq, models.splits.eq_append]
  simp [Reader.whole]

/-- What a cursor has not read is the rest of its reader. -/
theorem Models.rest_eq (models : Models text cursor reader) :
    cursor.rest = String.ofList reader.rest :=
  (models.splits.eq_right cursor.pos.splits).symm

theorem Models.next_nil
    (models : Models text cursor reader)
    (atEnd : reader.rest = []) :
    cursor.next = none := by
  have noMore : cursor.pos = cursor.text.endPos := by
    rw [models.splits.eq_endPos_iff, atEnd, String.ofList_nil]
  simp [next, noMore]

/-- The character behind the position is the first of the reader's rest. -/
theorem Models.next_cons
    {c : Char}
    {rest : List Char}
    (models : Models text cursor reader)
    (more : reader.rest = c :: rest) :
    ∃ after,
      cursor.next = some (c, after) ∧
        Models text after ⟨c :: reader.past, rest⟩ := by
  have splits :
      cursor.pos.Splits (String.ofList reader.past.reverse)
        (String.singleton c ++ String.ofList rest) := by
    rw [String.singleton_eq_ofList, ← String.ofList_append, List.singleton_append,
      ← more]
    exact models.splits
  have notEnd := splits.ne_endPos_of_singleton
  have first : cursor.pos.get notEnd = c := by
    have same := splits.eq_right (cursor.pos.splits_next_right notEnd)
    have heads := congrArg String.toList same
    simp only [String.toList_append, String.toList_singleton,
      List.singleton_append, List.cons.injEq] at heads
    exact heads.1.symm
  refine ⟨⟨cursor.text, cursor.pos.next notEnd, cursor.place.after c⟩, ?_, ?_⟩
  · simp [next, notEnd, first]
  · constructor
    · exact models.text_eq
    · have moved := splits.next
      rw [String.singleton_eq_ofList, ← String.ofList_append] at moved
      simpa using moved
    · rw [models.place_eq]
      rfl

theorem Models.peek?_eq (models : Models text cursor reader) :
    cursor.peek? = reader.rest[0]? := by
  rcases reader with ⟨past, _ | ⟨c, rest⟩⟩
  · simp [peek?, models.next_nil rfl]
  · rcases models.next_cons rfl with ⟨after, read, _⟩
    simp [peek?, read]

theorem Models.peekNext?_eq (models : Models text cursor reader) :
    cursor.peekNext? = reader.rest[1]? := by
  rcases reader with ⟨past, _ | ⟨c, rest⟩⟩
  · simp [peekNext?, models.next_nil rfl]
  · rcases models.next_cons rfl with ⟨after, read, models'⟩
    simp [peekNext?, read, models'.peek?_eq]

/-- A mark of a cursor leads back to it from everywhere in its text. -/
theorem reset_mark (sameText : later.text = cursor.text) :
    later.reset cursor.mark = some cursor := by
  rcases later with ⟨laterText, pos, place⟩
  obtain rfl : laterText = cursor.text := sameText
  rw [reset]
  split
  · rfl
  · rename_i invalid
    exact absurd cursor.pos.isValid invalid

/-- Cursors in a text simulate its readers. -/
theorem simulation (text : String) : Simulation (Models text) where
  place models := models.place_eq
  next := by
    rintro cursor ⟨past, _ | ⟨c, rest⟩⟩ models
    · change Option.Rel _ cursor.next none
      rw [models.next_nil rfl]
      exact .none
    · rcases models.next_cons rfl with ⟨after, read, models'⟩
      change Option.Rel _ cursor.next (some _)
      rw [read]
      exact .some ⟨rfl, models'⟩
  peek models := ⟨models.peek?_eq, models⟩
  peekNext models := ⟨models.peekNext?_eq, models⟩

theorem rewinding (text : String) : Rewinding (Models text) where
  toSimulation := simulation text
  rewinds := by
    intro cursor reader models
    refine ⟨Models text, simulation text, models, ?_⟩
    intro cursor' reader' models'
    have back : cursor'.reset cursor.mark = some cursor :=
      reset_mark (models'.text_eq.trans models.text_eq.symm)
    have back' : reader'.reset reader.mark = some reader :=
      Reader.reset_mark (models'.whole_eq.trans models.whole_eq.symm)
    refine ⟨models', ?_, ?_⟩
    · change Option.Rel _ (cursor'.reset cursor.mark) (reader'.reset reader.mark)
      rw [back, back']
      exact .some models
    · change (cursor'.reset cursor.mark).isSome = true
      rw [back]
      rfl

end Cursor

/-! ## Streams -/

namespace CharStream

/-- The stream has the reader's rest, and the end of what the reader has read. -/
structure Models (stream : CharStream) (reader : Reader) : Prop where
  unread_eq : stream.unread = reader.rest
  held_eq :
    ∃ dropped, reader.past = stream.held ++ dropped ∧ dropped.length = stream.base
  place_eq : stream.place = reader.place

variable {stream later : CharStream} {reader laterReader : Reader}

theorem models_ofList (chars : List Char) :
    (ofList chars).Models (Reader.ofList chars) where
  unread_eq := rfl
  held_eq := ⟨[], rfl, rfl⟩
  place_eq := rfl

theorem Models.offset_eq (models : stream.Models reader) :
    stream.offset = reader.past.length := by
  rcases models.held_eq with ⟨dropped, past, base⟩
  rw [offset, past, List.length_append, base]
  exact Nat.add_comm _ _

/-- Looking ahead does not change what a stream stands for. -/
theorem Models.fill
    (models : stream.Models reader)
    (count : Nat) :
    (stream.fill count).Models reader where
  unread_eq := (unread_fill count stream).trans models.unread_eq
  held_eq := models.held_eq
  place_eq := models.place_eq

/-- What is ahead of a filled stream is the front of its unread characters. -/
theorem getElem?_ahead_fill
    {position count : Nat}
    (within : position < count)
    (stream : CharStream) :
    (stream.fill count).ahead[position]? = stream.unread[position]? := by
  simp only [fill, unread, List.getElem?_append]
  split
  · rfl
  · rw [List.getElem?_take]
    simp
    omega

theorem Models.peek
    (models : stream.Models reader) :
    Both Models stream.peek (reader.rest[0]?, reader) := by
  constructor
  · rw [← models.unread_eq]
    exact getElem?_ahead_fill Nat.zero_lt_one stream
  · exact models.fill 1

theorem Models.peekNext
    (models : stream.Models reader) :
    Both Models stream.peekNext (reader.rest[1]?, reader) := by
  constructor
  · rw [← models.unread_eq]
    exact getElem?_ahead_fill Nat.one_lt_two stream
  · exact models.fill 2

theorem Models.next_nil
    (models : stream.Models reader)
    (atEnd : reader.rest = []) :
    stream.next = none := by
  cases read : stream.next with
  | none => rfl
  | some step =>
      rcases step with ⟨c, after⟩
      have more := (eq_of_next read).2
      rw [models.unread_eq, atEnd] at more
      simp at more

theorem Models.next_cons
    {c : Char}
    {rest : List Char}
    (models : stream.Models reader)
    (more : reader.rest = c :: rest) :
    ∃ after,
      stream.next = some (c, after) ∧ after.base = stream.base ∧
        after.Models ⟨c :: reader.past, rest⟩ := by
  have filled := models.fill 1
  have first : (stream.fill 1).ahead[0]? = some c := by
    rw [getElem?_ahead_fill Nat.zero_lt_one, models.unread_eq, more]
    rfl
  have unread := filled.unread_eq
  cases ahead : (stream.fill 1).ahead with
  | nil => simp [ahead] at first
  | cons d others =>
      obtain rfl : d = c := by simpa [ahead] using first
      refine
        ⟨{ stream.fill 1 with
            ahead := others
            held := d :: stream.held
            place := stream.place.after d }, ?_, rfl, ?_, ?_, ?_⟩
      · rw [next]
        simp only [ahead]
        rfl
      · simp only [CharStream.unread, ahead, more, List.cons_append,
          List.cons.injEq, true_and] at unread
        exact unread
      · rcases models.held_eq with ⟨dropped, past, base⟩
        exact ⟨dropped, congrArg (d :: ·) past, base⟩
      · change stream.place.after d = _
        rw [models.place_eq]
        rfl

theorem Models.mark_eq
    (models : stream.Models reader) :
    stream.mark.1 = reader.mark := by
  rw [CharStream.mark, models.offset_eq, models.place_eq]
  rfl

/-- Marking drops what was read before, which the reader has in its past. -/
theorem Models.mark
    (models : stream.Models reader) :
    stream.mark.2.Models reader where
  unread_eq := models.unread_eq
  held_eq := ⟨reader.past, rfl, models.offset_eq.symm⟩
  place_eq := models.place_eq

/-- A mark of a stream is honoured as long as nothing behind it was dropped. -/
theorem Models.reset
    {saved : Reader}
    (models : stream.Models reader)
    (honoured : stream.base ≤ saved.past.length)
    (within : saved.past.length ≤ stream.offset)
    (sameText : reader.whole = saved.whole) :
    ∃ back, stream.reset saved.mark = some back ∧ back.Models saved := by
  rcases models.held_eq with ⟨dropped, past, base⟩
  let back := stream.offset - saved.past.length
  have cut : reader.past =
      stream.held.take back ++ (stream.held.drop back ++ dropped) := by
    rw [past, ← List.append_assoc, List.take_append_drop]
  have length : (stream.held.drop back ++ dropped).length = saved.past.length := by
    rw [List.length_append, List.length_drop, base]
    simp only [back, offset] at within ⊢
    omega
  rw [Reader.whole, cut, List.reverse_append, List.append_assoc,
    Reader.whole] at sameText
  rcases List.append_inj sameText
    (by rw [List.length_reverse, length, List.length_reverse]) with
    ⟨samePast, sameRest⟩
  refine ⟨_, if_pos ⟨honoured, within⟩, ?_, ?_, ?_⟩
  · change (stream.held.take back).reverse ++ stream.ahead ++ stream.input = _
    rw [List.append_assoc, ← sameRest, ← models.unread_eq]
    rfl
  · exact ⟨dropped, (List.reverse_inj.mp samePast).symm, base⟩
  · rfl

/-- Streams that drop nothing simulate readers of one text. -/
theorem simulation_since
    (base : Nat)
    (whole : List Char) :
    Simulation fun (stream : CharStream) (reader : Reader) =>
      stream.Models reader ∧ stream.base = base ∧ reader.whole = whole where
  place related := related.1.place_eq
  next := by
    rintro stream ⟨past, _ | ⟨c, rest⟩⟩ ⟨models, honoured, sameText⟩
    · change Option.Rel _ stream.next none
      rw [models.next_nil rfl]
      exact .none
    · rcases models.next_cons rfl with ⟨after, read, sameBase, models'⟩
      change Option.Rel _ stream.next (some _)
      rw [read]
      have kept : Reader.whole ⟨c :: past, rest⟩ = whole :=
        (Reader.whole_of_next (Reader.next_cons past rest c)).trans sameText
      exact .some ⟨rfl, models', sameBase.trans honoured, kept⟩
  peek related := ⟨related.1.peek.1, related.1.peek.2, related.2⟩
  peekNext related := ⟨related.1.peekNext.1, related.1.peekNext.2, related.2⟩

theorem simulation : Simulation Models where
  place models := models.place_eq
  next := by
    intro stream reader models
    rcases (simulation_since _ _).next_cases ⟨models, rfl, rfl⟩ with
      ⟨atEnd, atEnd'⟩ | ⟨c, after, after', read, read', models', _⟩
    · rw [atEnd, atEnd']
      exact .none
    · rw [read, read']
      exact .some ⟨rfl, models'⟩
  peek := Models.peek
  peekNext := Models.peekNext

theorem rewinding : Rewinding Models where
  toSimulation := simulation
  rewinds := by
    intro start startReader marked
    refine
      ⟨_, simulation_since start.offset startReader.whole,
        ⟨marked.mark, rfl, rfl⟩, ?_⟩
    · rintro stream reader ⟨models, honoured, sameText⟩
      have start_eq := marked.offset_eq
      rcases models.reset (Nat.le_of_eq (honoured.trans start_eq))
        (start_eq ▸ honoured ▸ Nat.le_add_right _ _) sameText with
          ⟨back, done, models'⟩
      rw [← marked.mark_eq] at done
      have done' : reader.reset startReader.mark = some startReader :=
        Reader.reset_mark sameText
      refine ⟨models, ?_, ?_⟩
      · change Option.Rel _ (stream.reset start.mark.1)
          (reader.reset startReader.mark)
        rw [done, done']
        exact .some models'
      · change (stream.reset start.mark.1).isSome = true
        rw [done]
        rfl

end CharStream

end Formula
