import Formula.Proofs.Source.Handling

/-!
# Cursors and streams agree

Whatever is done with a text, a cursor makes every motion like the reader that
keeps what it has read, and goes back to any of its marks.  A stream does the
same up to the first mark that it refuses, and it refuses a mark if it was set
again later in the text.  The index in its buffer is always good.
-/

namespace Formula

open Handling

/-- How scanners handle a source.  A mark that is not honoured is refused. -/
def CharSource.handling (σ : Type) [CharSource σ] : Handling σ Mark where
  next s := .ok (take s).1 (take s).2
  peek s := .ok (peek s).1 (peek s).2
  peekNext s := .ok (peekNext s).1 (peekNext s).2
  mark s := .ok (mark s).1 (mark s).2
  reset mark s :=
    match CharSource.reset mark s with
    | some back => .ok () back
    | none => .error .staleMark s
  place := CharSource.place
  placeOf := Mark.place

theorem CharSource.handling_reset_of_some {σ : Type} [CharSource σ]
    {mark : Mark}
    {s back : σ}
    (done : CharSource.reset mark s = some back) :
    (handling σ).reset mark s = .ok () back := by
  simp only [handling, done]

theorem CharSource.handling_reset_of_none {σ : Type} [CharSource σ]
    {mark : Mark}
    {s : σ}
    (refused : CharSource.reset mark s = none) :
    (handling σ).reset mark s = .error .staleMark s := by
  simp only [handling, refused]

/-- How the abstract reader is handled.  A mark is the reader that it leads back
to. -/
def Reader.handling : Handling Reader Reader where
  next reader := .ok (CharSource.take reader).1 (CharSource.take reader).2
  peek reader := .ok reader.rest[0]? reader
  peekNext reader := .ok reader.rest[1]? reader
  mark reader := .ok reader reader
  reset saved _ := .ok () saved
  place := Reader.place
  placeOf := Reader.place

/-- How a buffer is handled. -/
def Buffered.handling : Handling Buffered Mark where
  next := next
  peek := fill 0
  peekNext := fill 1
  mark := mark
  reset := reset
  place buffered := buffered.position.place
  placeOf := Mark.place

theorem Both.agree {α σ τ : Type}
    {alike related : σ → τ → Prop}
    {left : α × σ}
    {right : α × τ}
    (both : Both alike left right)
    (weaken : ∀ {s t}, alike s t → related s t) :
    Agree related (.ok left.1 left.2) (.ok right.1 right.2) := by
  rcases both.split with ⟨answer, s, t, rfl, rfl, related'⟩
  exact ⟨answer, s, t, rfl, rfl, weaken related'⟩

/-! ## Cursors -/

namespace Cursor

/-- The cursor stands behind the beginning of a text. -/
structure IsBehind
    (cursor : Cursor)
    (consumed text : String) :
    Prop where
  text_eq : cursor.text = text
  append_rest : consumed ++ cursor.rest = text
  offset_eq : cursor.pos.offset.byteIdx = consumed.utf8ByteSize
  isAtEnd_iff : cursor.isAtEnd = true ↔ cursor.rest = ""
  line_eq : cursor.place.line = 1 + consumed.toList.count '\n'
  column_eq :
    cursor.place.column = 1 + (consumed.toList.reverse.takeWhile (· ≠ '\n')).length

variable {text : String} {cursor : Cursor} {reader : Reader}

theorem Models.isBehind (models : Models text cursor reader) :
    cursor.IsBehind (String.ofList reader.past.reverse) text := by
  have place : cursor.place = Place.behind reader.past := models.place_eq
  rw [Place.behind_eq] at place
  constructor
  case text_eq => exact models.text_eq
  case append_rest =>
    rw [models.rest_eq, ← models.splits.eq_append]
    exact models.text_eq
  case offset_eq => exact models.splits.offset_eq_rawEndPos ▸ rfl
  case isAtEnd_iff =>
    rw [isAtEnd, decide_eq_true_iff, models.rest_eq]
    exact models.splits.eq_endPos_iff
  case line_eq => rw [place, String.toList_ofList, List.count_reverse]
  case column_eq => rw [place, String.toList_ofList, List.reverse_reverse]

/-- A mark of a cursor that stands where the saved reader is. -/
def Marks
    (text : String)
    (mark : Mark)
    (saved : Reader) :
    Prop :=
  ∃ cursor, Models text cursor saved ∧ mark = cursor.mark

/-- A cursor does all that the reader does, and honours all of its marks. -/
theorem follows (text : String) :
    (CharSource.handling Cursor).Follows Reader.handling (Models text) (Marks text)
      (fun _ _ => True) where
  place := (simulation text).place
  next models := ((simulation text).take models).agree id
  peek models := ((simulation text).peek models).agree id
  peekNext models := ((simulation text).peekNext models).agree id
  mark {cursor reader} models :=
    ⟨cursor.mark, cursor, reader, reader, rfl, rfl, models.place_eq,
      ⟨cursor, models, rfl⟩, models⟩
  reset := by
    rintro later _ mark saved models ⟨cursor, marked, rfl⟩ _
    have back : later.reset cursor.mark = some cursor :=
      reset_mark (models.text_eq.trans marked.text_eq.symm)
    exact ⟨(), cursor, saved, CharSource.handling_reset_of_some back, rfl, marked⟩
  refuse _ _ refused := absurd trivial refused

end Cursor

/-! ## Streams -/

namespace CharStream

variable {stream : CharStream} {state : Marked CharStream Mark}

theorem reset_isSome_iff
    {mark : Mark} :
    (stream.reset mark).isSome ↔
      stream.base ≤ mark.offset ∧ mark.offset ≤ stream.offset := by
  rw [reset]
  split
  case isTrue within => exact ⟨fun _ => within, fun _ => rfl⟩
  case isFalse without => exact ⟨by rintro ⟨⟩, fun within => absurd within without⟩

/-- A stream does what the reader does, as long as it honours the marks. -/
theorem follows (whole : List Char) :
    (CharSource.handling CharStream).Follows Reader.handling
      (fun stream reader => stream.Models reader ∧ reader.whole = whole)
      (fun mark saved => mark = saved.mark ∧ saved.whole = whole)
      (fun stream mark => (stream.reset mark).isSome) where
  place related := simulation.place related.1
  next {stream _} related :=
    ((simulation_since stream.base whole).take ⟨related.1, rfl, related.2⟩).agree
      fun since => ⟨since.1, since.2.2⟩
  peek {stream _} related :=
    ((simulation_since stream.base whole).peek ⟨related.1, rfl, related.2⟩).agree
      fun since => ⟨since.1, since.2.2⟩
  peekNext {stream _} related :=
    ((simulation_since stream.base whole).peekNext
      ⟨related.1, rfl, related.2⟩).agree
      fun since => ⟨since.1, since.2.2⟩
  mark {stream reader} related := by
    rcases related with ⟨models, sameText⟩
    exact ⟨stream.mark.1, stream.mark.2, reader, reader, rfl, rfl, models.place_eq,
      ⟨models.mark_eq, sameText⟩, models.mark, sameText⟩
  reset := by
    rintro stream reader mark saved ⟨models, sameText⟩ ⟨rfl, sameText'⟩ honoured
    rcases reset_isSome_iff.mp honoured with ⟨held, within⟩
    rcases models.reset held within (sameText.trans sameText'.symm) with
      ⟨back, done, models'⟩
    exact ⟨(), back, saved, CharSource.handling_reset_of_some done, rfl, models',
      sameText'⟩
  refuse {stream _ mark _} _ _ refused := by
    have none : stream.reset mark = none :=
      Option.not_isSome_iff_eq_none.mp refused
    exact ⟨.staleMark, CharSource.handling_reset_of_none none⟩

/-- The marks of a stream lie behind one another, and the latest of them where
the stream began to hold its characters. -/
structure Kept (state : Marked CharStream Mark) : Prop where
  ordered : state.marks.Pairwise (·.offset ≤ ·.offset)
  le_base : ∀ mark ∈ state.marks, mark.offset ≤ state.source.base
  base_mem :
    state.marks ≠ [] → ∃ mark ∈ state.marks, mark.offset = state.source.base

theorem kept_ofList (chars : List Char) : Kept ⟨ofList chars, []⟩ where
  ordered := .nil
  le_base _ isMark := absurd isMark List.not_mem_nil
  base_mem nonempty := absurd rfl nonempty

theorem Kept.of_base_eq
    (kept : Kept state)
    (sameBase : stream.base = state.source.base) :
    Kept ⟨stream, state.marks⟩ where
  ordered := kept.ordered
  le_base := sameBase ▸ kept.le_base
  base_mem := sameBase ▸ kept.base_mem

theorem Kept.mark (kept : Kept state) :
    Kept ⟨state.source.mark.2, state.marks ++ [state.source.mark.1]⟩ := by
  have before : ∀ mark ∈ state.marks, mark.offset ≤ state.source.offset :=
    fun mark isMark =>
    Nat.le_trans (kept.le_base mark isMark) (Nat.le_add_right _ _)
  constructor
  case ordered =>
    apply List.pairwise_append.mpr
    refine ⟨kept.ordered, List.pairwise_singleton _ _, ?_⟩
    intro mark isMark latest isLatest
    rw [List.mem_singleton.mp isLatest]
    exact before mark isMark
  case le_base =>
    intro mark isMark
    rcases List.mem_append.mp isMark with older | latest
    · exact before mark older
    · rw [List.mem_singleton.mp latest]
      exact Nat.le_refl _
  case base_mem =>
    intro _
    exact ⟨_, List.mem_append_right _ (List.mem_singleton_self _), rfl⟩

theorem base_take : (CharSource.take stream).2.base = stream.base := by
  rw [CharSource.take]
  cases read : CharSource.next stream with
  | none => rfl
  | some step =>
      rcases step with ⟨c, after⟩
      change stream.next = _ at read
      rw [next] at read
      split at read
      · cases read
      · cases read
        rfl

theorem base_of_reset
    {mark : Mark}
    {back : CharStream}
    (done : stream.reset mark = some back) :
    back.base = stream.base := by
  rw [reset] at done
  split at done
  · cases done
    rfl
  · cases done

/-- A reset goes back and keeps the marks, or changes nothing. -/
theorem perform_reset
    {number : Nat}
    {mark : Mark}
    (there : state.marks[number]? = some mark) :
    (CharSource.handling CharStream).perform (.reset number) state =
      match state.source.reset mark with
      | some back => (.moved, ⟨back, state.marks⟩)
      | none => (.refused .staleMark, state) := by
  simp only [perform, there]
  cases done : state.source.reset mark with
  | some back => rw [CharSource.handling_reset_of_some done, reply]
  | none => rw [CharSource.handling_reset_of_none done, reply]

theorem Kept.perform
    (kept : Kept state)
    (motion : Motion) :
    Kept ((CharSource.handling CharStream).perform motion state).2 := by
  cases motion with
  | next => exact kept.of_base_eq base_take
  | peek => exact kept.of_base_eq rfl
  | peekNext => exact kept.of_base_eq rfl
  | mark => exact kept.mark
  | reset number =>
      cases there : state.marks[number]? with
      | none =>
          simp only [Handling.perform, there]
          exact kept
      | some mark =>
          rw [perform_reset there]
          cases done : state.source.reset mark with
          | none => exact kept
          | some back => exact kept.of_base_eq (base_of_reset done)

theorem Kept.run
    (kept : Kept state)
    (motions : List Motion) :
    Kept ((CharSource.handling CharStream).run state motions).2 := by
  induction motions generalizing state with
  | nil => exact kept
  | cons motion motions ih => exact ih (kept.perform motion)

/-- A mark is refused if the stream dropped what is behind it. -/
theorem Kept.reset_eq_none_iff_lt
    {mark : Mark}
    (kept : Kept state)
    (isMark : mark ∈ state.marks) :
    state.source.reset mark = none ↔ mark.offset < state.source.base := by
  have before : mark.offset ≤ state.source.offset :=
    Nat.le_trans (kept.le_base mark isMark) (Nat.le_add_right _ _)
  rw [← Option.not_isSome_iff_eq_none, reset_isSome_iff]
  omega

/-- A mark is refused if the stream was marked again behind it. -/
theorem Kept.reset_eq_none_iff
    {number : Nat}
    {mark : Mark}
    (kept : Kept state)
    (there : state.marks[number]? = some mark) :
    state.source.reset mark = none ↔
      ∃ later mark', number < later ∧ state.marks[later]? = some mark' ∧
        mark.offset < mark'.offset := by
  have isMark : mark ∈ state.marks := List.mem_of_getElem? there
  rw [kept.reset_eq_none_iff_lt isMark]
  constructor
  · intro stale
    rcases kept.base_mem (List.ne_nil_of_mem isMark) with
      ⟨latest, isLatest, latest_eq⟩
    rcases List.getElem?_of_mem isLatest with ⟨later, there'⟩
    have behind : mark.offset < latest.offset := latest_eq ▸ stale
    refine ⟨later, latest, ?_, there', behind⟩
    rcases List.getElem?_eq_some_iff.mp there with ⟨within, rfl⟩
    rcases List.getElem?_eq_some_iff.mp there' with ⟨within', rfl⟩
    rcases Nat.lt_trichotomy number later with after | rfl | earlier
    · exact after
    · exact absurd behind (Nat.lt_irrefl _)
    · have sorted :=
        List.pairwise_iff_getElem.mp kept.ordered later number within' within
          earlier
      exact absurd behind (Nat.not_lt.mpr sorted)
  · rintro ⟨later, mark', _, there', behind⟩
    exact Nat.lt_of_lt_of_le behind
      (kept.le_base mark' (List.mem_of_getElem? there'))

/-! ## Buffers -/

/-- A marked stream as a marked buffer. -/
def bufferedMarked (state : Marked CharStream Mark) : Marked Buffered Mark :=
  ⟨state.source.buffered, state.marks⟩

/-- A motion comes to the same in the buffer of a stream. -/
theorem Kept.perform_buffered
    (kept : Kept state)
    (motion : Motion) :
    Buffered.handling.perform motion (bufferedMarked state) =
      (((CharSource.handling CharStream).perform motion state).1,
        bufferedMarked
          ((CharSource.handling CharStream).perform motion state).2) := by
  cases motion with
  | next =>
      show reply .char state.marks (Buffered.next state.source.buffered) = _
      rw [state.source.next_buffered]
      rfl
  | peek =>
      show reply .char state.marks (Buffered.fill 0 state.source.buffered) = _
      rw [state.source.peek_buffered]
      rfl
  | peekNext =>
      show reply .char state.marks (Buffered.fill 1 state.source.buffered) = _
      rw [state.source.peekNext_buffered]
      rfl
  | mark =>
      have marked : Buffered.handling.mark (bufferedMarked state).source = _ :=
        state.source.mark_buffered
      simp only [Handling.perform, marked]
      rfl
  | reset number =>
      cases there : state.marks[number]? with
      | none =>
          have there' : (bufferedMarked state).marks[number]? = none := there
          simp only [Handling.perform, there, there']
      | some mark =>
          have there' : (bufferedMarked state).marks[number]? = some mark := there
          rw [perform_reset there]
          simp only [Handling.perform, there']
          show reply (fun _ => .moved) state.marks
            (Buffered.reset mark state.source.buffered) = _
          cases done : state.source.reset mark with
          | some back =>
              rw [state.source.reset_buffered done]
              rfl
          | none =>
              have stale :=
                (kept.reset_eq_none_iff_lt (List.mem_of_getElem? there)).mp done
              rw [state.source.reset_buffered_of_lt stale]
              rfl

theorem Kept.run_buffered
    (kept : Kept state)
    (motions : List Motion) :
    Buffered.handling.run (bufferedMarked state) motions =
      (((CharSource.handling CharStream).run state motions).1,
        bufferedMarked
          ((CharSource.handling CharStream).run state motions).2) := by
  induction motions generalizing state with
  | nil => rfl
  | cons motion motions ih =>
      rw [run_cons, run_cons, kept.perform_buffered motion,
        ih (kept.perform motion)]
      rfl

end CharStream

/-- The only fault of a source that scanners can handle is a mark that it does not
honour. -/
theorem CharSource.fault_of_perform {σ : Type} [CharSource σ]
    {motion : Motion}
    {state : Marked σ Mark}
    {fault : Fault}
    (refused : ((handling σ).perform motion state).1 = .refused fault) :
    fault = .staleMark := by
  cases motion with
  | next => cases refused
  | peek => cases refused
  | peekNext => cases refused
  | mark => cases refused
  | reset number =>
      simp only [Handling.perform] at refused
      split at refused
      case h_1 mark there =>
        cases done : CharSource.reset mark state.source with
        | some back =>
            rw [CharSource.handling_reset_of_some done] at refused
            cases refused
        | none =>
            rw [CharSource.handling_reset_of_none done] at refused
            cases refused
            rfl
      case h_2 => cases refused

theorem CharSource.fault_of_run {σ : Type} [CharSource σ]
    {motions : List Motion}
    {state : Marked σ Mark}
    {fault : Fault}
    {place : Place}
    (noted : (.refused fault, place) ∈ ((handling σ).run state motions).1) :
    fault = .staleMark := by
  induction motions generalizing state with
  | nil => cases noted
  | cons motion motions ih =>
      rcases List.mem_cons.mp noted with first | later
      · exact CharSource.fault_of_perform (congrArg Prod.fst first).symm
      · exact ih later

/-! ## Texts -/

/--
Whatever motions are made in a text, a cursor comes to the same as the reader
that keeps what it has read, and so does a stream up to its first refusal.  The
buffer of the stream is never left by its index.  The stream refuses a mark if
and only if it was marked again behind it, and is then as it was.
-/
theorem Motion.sources_agree
    (text : String)
    (motions : List Motion) :
    let reader := Reader.handling.run ⟨.ofList text.toList, []⟩ motions
    let cursor := (CharSource.handling Cursor).run ⟨.ofString text, []⟩ motions
    let stream :=
      (CharSource.handling CharStream).run ⟨.ofList text.toList, []⟩ motions
    let buffer := Buffered.handling.run ⟨.ofList text.toList, []⟩ motions
    (cursor.1 = reader.1 ∧
        cursor.2.source.IsBehind
          (String.ofList reader.2.source.past.reverse) text ∧
        ∀ motion, motion = .peek ∨ motion = .peekNext →
          ((CharSource.handling Cursor).perform motion cursor.2).2 = cursor.2) ∧
      stream.1.takeWhile (·.1.honoured) <+: reader.1 ∧
      (buffer = (stream.1, CharStream.bufferedMarked stream.2) ∧
        ∀ place, (.refused .underflow, place) ∉ buffer.1 ∧
        (.refused .overrun, place) ∉ buffer.1) ∧
      ∀ number mark, stream.2.marks[number]? = some mark →
        let refused :=
          (CharSource.handling CharStream).perform (.reset number) stream.2
        (refused.1.honoured = false ↔
          ∃ later mark', number < later ∧ stream.2.marks[later]? = some mark' ∧
            mark.offset < mark'.offset) ∧
          (refused.1.honoured = false → refused.2 = stream.2) := by
  intro reader cursor stream buffer
  have kept : CharStream.Kept stream.2 :=
    (CharStream.kept_ofList text.toList).run motions
  have mirrored : buffer = (stream.1, CharStream.bufferedMarked stream.2) :=
    (CharStream.kept_ofList text.toList).run_buffered motions
  refine ⟨?_, ?_, ⟨mirrored, ?_⟩, ?_⟩
  · rcases (Cursor.follows text).run_eq (fun _ _ => trivial) motions
      (.unmarked (Cursor.models_ofString text)) with ⟨sameNotes, alike⟩
    refine ⟨sameNotes, alike.source.isBehind, ?_⟩
    rintro motion (rfl | rfl)
    · rfl
    · rfl
  · exact (CharStream.follows text.toList).run_until_refusal motions
      (.unmarked ⟨CharStream.models_ofList text.toList, rfl⟩)
  · intro place
    rw [mirrored]
    constructor
    · intro noted
      cases CharSource.fault_of_run noted
    · intro noted
      cases CharSource.fault_of_run noted
  · intro number mark there
    rw [CharStream.perform_reset there, ← kept.reset_eq_none_iff there]
    cases stream.2.source.reset mark with
    | some back => exact ⟨⟨nofun, nofun⟩, nofun⟩
    | none => exact ⟨⟨fun _ => rfl, fun _ => rfl⟩, fun _ => rfl⟩

/-- The first mark of this stream is lost with the second one, which is kept. -/
example :
    ((CharSource.handling CharStream).run ⟨.ofList ['a', 'b'], []⟩
      [.mark, .next, .mark, .next, .reset 0, .reset 1]).1.map Prod.fst =
      [.marked ⟨1, 1⟩, .char (some 'a'), .marked ⟨1, 2⟩, .char (some 'b'),
        .refused .staleMark, .moved] := by
  decide

end Formula
