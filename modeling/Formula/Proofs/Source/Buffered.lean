import Formula.Proofs.Source.Models

/-!
# Streams as buffers

A stream keeps its characters in a buffer, and finds its position in there by an
index: how far it is behind the first character of the buffer.  Here the index is
computed and every access is checked, so that an index below the buffer or behind
its end is a fault, and so is a reset to what the buffer has lost.  Whatever is
done with a stream comes to the same in its buffer, and the only fault that there
can be is the refusal of a mark.
-/

namespace Formula

/-- What can go wrong with a buffer. -/
inductive Fault where
  | underflow
  | overrun
  | staleMark
  deriving DecidableEq, Repr

/-- Characters to come, those that are kept, the offset of the first of these, and
the position. -/
structure Buffered where
  input : List Char
  buffer : List Char := []
  base : Nat := 0
  position : Mark := ⟨0, {}⟩
  deriving DecidableEq, Repr

namespace Buffered

/-- What is done with a buffer.  A fault leaves it as it is at that moment. -/
abbrev Action :=
  EStateM Fault Buffered

/-- The buffer in front of the characters of a list. -/
def ofList (chars : List Char) : Buffered where
  input := chars

/-- The index of the position in the buffer. -/
def index : Action Nat := do
  let stream ← get
  if stream.position.offset < stream.base then throw .underflow
  return stream.position.offset - stream.base

/-- The character at an index. -/
def access (index : Nat) : Action Char := do
  match (← get).buffer[index]? with
  | some c => return c
  | none => throw .overrun

/-- Takes characters in until there is one at the wanted index, or no more are to
come. -/
def pull
    (wanted : Nat)
    (buffer : List Char) :
    List Char → Bool × List Char × List Char
  | [] => (decide (wanted < buffer.length), buffer, [])
  | c :: input =>
    if buffer.length ≤ wanted then pull wanted (buffer ++ [c]) input
    else (true, buffer, c :: input)

/-- Takes characters in, and says whether there is one at the wanted index. -/
def extend (wanted : Nat) : Action Bool :=
  modifyGet fun stream =>
    let (reached, buffer, input) := pull wanted stream.buffer stream.input
    (reached, { stream with buffer, input })

/-- The character that is so far ahead of the position. -/
def fill (ahead : Nat) : Action (Option Char) := do
  let wanted := (← index) + ahead
  if ← extend wanted then return some (← access wanted)
  return none

/-- Reads the next character. -/
def next : Action (Option Char) := do
  match ← fill 0 with
  | none => return none
  | some c =>
    modify fun stream =>
      { stream with
        position := ⟨stream.position.offset + 1, stream.position.place.after c⟩ }
    return some c

/-- Marks the position, and drops what was read before it. -/
def mark : Action Mark := do
  let consumed ← index
  let stream ← get
  if stream.buffer.length < consumed then throw .overrun
  set { stream with
    buffer := stream.buffer.drop consumed
    base := stream.position.offset }
  return stream.position

/-- Goes back to a mark. -/
def reset (mark : Mark) : Action Unit := do
  let stream ← get
  if mark.offset < stream.base then throw .staleMark
  set { stream with position := mark }

theorem bind_of_ok {α β : Type}
    {action : Action α}
    {next : α → Action β}
    {stream stream' : Buffered}
    {result : α}
    (done : action stream = .ok result stream') :
    (action >>= next) stream = next result stream' := by
  show EStateM.bind action next stream = _
  rw [EStateM.bind, done]

/-- What is pulled in, and whether that is enough. -/
theorem pull_eq
    (wanted : Nat)
    (buffer input : List Char) :
    pull wanted buffer input =
      (decide (wanted < buffer.length + input.length),
        buffer ++ input.take (wanted + 1 - buffer.length),
        input.drop (wanted + 1 - buffer.length)) := by
  induction input generalizing buffer with
  | nil => simp [pull]
  | cons c input ih =>
      rw [pull]
      split
      case isTrue short =>
        have step : wanted + 1 - buffer.length =
            wanted + 1 - (buffer ++ [c]).length + 1 := by
          rw [List.length_append, List.length_singleton]
          omega
        rw [ih, step, List.take_succ_cons, List.drop_succ_cons]
        simp [Nat.add_comm, Nat.add_left_comm]
      case isFalse enough =>
        have nothing : wanted + 1 - buffer.length = 0 := by omega
        rw [nothing]
        simp
        omega

theorem extend_of_pull
    {wanted : Nat}
    {stream : Buffered}
    {reached : Bool}
    {buffer input : List Char}
    (pulled : pull wanted stream.buffer stream.input = (reached, buffer, input)) :
    extend wanted stream = .ok reached { stream with buffer, input } := by
  show EStateM.Result.ok (pull wanted stream.buffer stream.input).1
    { stream with
      buffer := (pull wanted stream.buffer stream.input).2.1
      input := (pull wanted stream.buffer stream.input).2.2 } = _
  rw [pulled]

theorem access_of_some
    {index : Nat}
    {stream : Buffered}
    {c : Char}
    (there : stream.buffer[index]? = some c) :
    access index stream = .ok c stream := by
  show (match stream.buffer[index]? with
    | some c => pure c
    | none => throw .overrun : Action Char) stream = _
  rw [there]
  rfl

end Buffered

namespace CharStream

/-- A stream as a buffer. -/
def buffered (stream : CharStream) : Buffered where
  input := stream.input
  buffer := stream.held.reverse ++ stream.ahead
  base := stream.base
  position := ⟨stream.offset, stream.place⟩

variable (stream : CharStream)

/-- The index is the number of characters that are held. -/
theorem index_buffered :
    Buffered.index stream.buffered = .ok stream.held.length stream.buffered := by
  have within : ¬ stream.offset < stream.base :=
    Nat.not_lt.mpr (Nat.le_add_right _ _)
  have distance : stream.offset - stream.base = stream.held.length :=
    Nat.add_sub_cancel_left ..
  show (if stream.offset < stream.base then _ else _ : Buffered.Action Nat)
    stream.buffered = _
  rw [if_neg within, ← distance]
  rfl

theorem extend_buffered (ahead : Nat) :
    Buffered.extend (stream.held.length + ahead) stream.buffered =
      .ok (decide (ahead < stream.unread.length))
        (stream.fill (ahead + 1)).buffered := by
  have missing : stream.held.length + ahead + 1 -
      (stream.held.reverse ++ stream.ahead).length =
        ahead + 1 - stream.ahead.length := by
    rw [List.length_append, List.length_reverse]
    omega
  have reached : decide (stream.held.length + ahead <
      (stream.held.reverse ++ stream.ahead).length + stream.input.length) =
        decide (ahead < stream.unread.length) := by
    apply decide_eq_decide.mpr
    rw [List.length_append, List.length_reverse, unread, List.length_append]
    omega
  have pulled := Buffered.pull_eq (stream.held.length + ahead)
    (stream.held.reverse ++ stream.ahead) stream.input
  rw [missing, reached, List.append_assoc] at pulled
  exact Buffered.extend_of_pull pulled

/-- Behind the held characters in the buffer of a filled stream are the unread
ones. -/
theorem access_buffered
    {ahead : Nat}
    {c : Char}
    (unread : stream.unread[ahead]? = some c) :
    Buffered.access (stream.held.length + ahead)
      (stream.fill (ahead + 1)).buffered =
        .ok c (stream.fill (ahead + 1)).buffered := by
  apply Buffered.access_of_some
  show (stream.held.reverse ++
    (stream.fill (ahead + 1)).ahead)[stream.held.length + ahead]? = _
  rw [List.getElem?_append_right (by simp), List.length_reverse,
    Nat.add_sub_cancel_left, getElem?_ahead_fill (Nat.lt_succ_self ahead), unread]

/-- Looking ahead finds the unread characters, and only fills the buffer. -/
theorem fill_buffered (ahead : Nat) :
    Buffered.fill ahead stream.buffered =
      .ok stream.unread[ahead]? (stream.fill (ahead + 1)).buffered := by
  rw [Buffered.fill, Buffered.bind_of_ok stream.index_buffered,
    Buffered.bind_of_ok (stream.extend_buffered ahead)]
  cases unread : stream.unread[ahead]? with
  | some c =>
      have within : ahead < stream.unread.length :=
        (List.getElem?_eq_some_iff.mp unread).1
      rw [decide_eq_true within, if_pos rfl,
        Buffered.bind_of_ok (stream.access_buffered unread)]
      rfl
  | none =>
      have behind : ¬ ahead < stream.unread.length :=
        Nat.not_lt.mpr (List.getElem?_eq_none_iff.mp unread)
      rw [decide_eq_false behind, if_neg Bool.false_ne_true]
      rfl

theorem peek_buffered :
    Buffered.fill 0 stream.buffered =
      .ok stream.peek.1 stream.peek.2.buffered := by
  rw [stream.fill_buffered 0, peek, getElem?_ahead_fill Nat.zero_lt_one]

theorem peekNext_buffered :
    Buffered.fill 1 stream.buffered =
      .ok stream.peekNext.1 stream.peekNext.2.buffered := by
  rw [stream.fill_buffered 1, peekNext, getElem?_ahead_fill Nat.one_lt_two]

/-- At its end a stream has nothing to fill its buffer with. -/
theorem fill_of_unread_nil
    (atEnd : stream.unread = [])
    (count : Nat) :
    stream.fill count = stream := by
  have noInput : stream.input = [] := (List.append_eq_nil_iff.mp atEnd).2
  simp only [fill, noInput, List.take_nil, List.drop_nil, List.append_nil]
  rw [← noInput]

theorem next_buffered :
    Buffered.next stream.buffered =
      .ok (CharSource.take stream).1 (CharSource.take stream).2.buffered := by
  rw [Buffered.next, Buffered.bind_of_ok stream.peek_buffered]
  cases ahead : (stream.fill 1).ahead with
  | nil =>
      have seen : stream.peek.1 = none := by rw [peek, ahead, List.getElem?_nil]
      have read : CharSource.next stream = none := by
        show stream.next = none
        rw [next, ahead]
      have atEnd : stream.unread = [] := by
        apply List.eq_nil_of_length_eq_zero
        have nothing := getElem?_ahead_fill Nat.zero_lt_one stream
        rw [ahead, List.getElem?_nil] at nothing
        exact Nat.eq_zero_of_le_zero (List.getElem?_eq_none_iff.mp nothing.symm)
      have kept : stream.peek.2 = stream := stream.fill_of_unread_nil atEnd 1
      rw [CharSource.take, read, seen, kept]
      rfl
  | cons c rest =>
      have seen : stream.peek.1 = some c := by
        rw [peek, ahead, List.getElem?_cons_zero]
      have read : CharSource.next stream = some (c, { stream.fill 1 with
          ahead := rest
          held := c :: stream.held
          place := stream.place.after c }) := by
        show stream.next = _
        rw [next, ahead]
        rfl
      have moved : stream.held.reverse ++ (stream.fill 1).ahead =
          (c :: stream.held).reverse ++ rest := by
        rw [ahead, List.reverse_cons, List.append_assoc, List.singleton_append]
      rw [CharSource.take, read, seen]
      show EStateM.Result.ok (some c) { stream.peek.2.buffered with
        buffer := stream.held.reverse ++ (stream.fill 1).ahead
        position := ⟨stream.offset + 1, stream.place.after c⟩ } = _
      rw [moved]
      rfl

theorem mark_buffered :
    Buffered.mark stream.buffered = .ok stream.mark.1 stream.mark.2.buffered := by
  have within :
      ¬ (stream.held.reverse ++ stream.ahead).length < stream.held.length := by
    rw [List.length_append, List.length_reverse]
    exact Nat.not_lt.mpr (Nat.le_add_right _ _)
  have dropped :
      (stream.held.reverse ++ stream.ahead).drop stream.held.length =
        stream.ahead := by
    rw [← List.length_reverse, List.drop_left]
  rw [Buffered.mark, Buffered.bind_of_ok stream.index_buffered]
  show
    (if (stream.held.reverse ++ stream.ahead).length < stream.held.length then _
      else _ : Buffered.Action Mark) stream.buffered = _
  rw [if_neg within]
  show EStateM.Result.ok _
    { stream.buffered with
      buffer := (stream.held.reverse ++ stream.ahead).drop stream.held.length
      base := stream.offset } = _
  rw [dropped]
  rfl

/-- Going back moves held characters to those ahead, which the buffer does not
tell. -/
theorem buffered_of_reset
    {mark : Mark}
    {back : CharStream}
    (done : stream.reset mark = some back) :
    back.buffered = { stream.buffered with position := mark } := by
  have there : back.offset = mark.offset := offset_of_reset done
  rw [reset] at done
  split at done
  case isFalse => cases done
  case isTrue =>
    obtain rfl := Option.some.inj done
    have kept (back : Nat) : (stream.held.drop back).reverse ++
        ((stream.held.take back).reverse ++ stream.ahead) =
          stream.held.reverse ++ stream.ahead := by
      rw [← List.append_assoc, ← List.reverse_append, List.take_append_drop]
    rw [buffered, there, kept, buffered]

theorem reset_buffered
    {mark : Mark}
    {back : CharStream}
    (done : stream.reset mark = some back) :
    Buffered.reset mark stream.buffered = .ok () back.buffered := by
  have honoured : ¬ mark.offset < stream.base := by
    rw [reset] at done
    split at done
    case isFalse => cases done
    case isTrue within => exact Nat.not_lt.mpr within.1
  rw [stream.buffered_of_reset done]
  show (if mark.offset < stream.base then _ else _ : Buffered.Action Unit)
    stream.buffered = _
  rw [if_neg honoured]
  rfl

theorem reset_buffered_of_lt
    {mark : Mark}
    (stale : mark.offset < stream.base) :
    Buffered.reset mark stream.buffered = .error .staleMark stream.buffered := by
  show (if mark.offset < stream.base then _ else _ : Buffered.Action Unit)
    stream.buffered = _
  rw [if_pos stale]
  rfl

end CharStream

end Formula
