import Formula.Proofs.Grammar.Locality

/-!
# Completions

A text that breaks off in front of some token can be completed, if something can
be written behind a gap that makes a whole of it.  What was read before the gap
stays what it was, since a gap is a stop.
-/

namespace Formula.Grammar

open Text

/-- Blanks between two tokens. -/
structure Gap (gap : List Char) : Prop where
  nonempty : gap ≠ []
  areBlank : ∀ c ∈ gap, isBlank c

theorem gap_append_space
    {blanks : List Char}
    (areBlank : ∀ c ∈ blanks, isBlank c) :
    Gap (blanks ++ [' ']) where
  nonempty := List.append_ne_nil_of_right_ne_nil blanks (List.cons_ne_nil ' ' [])
  areBlank := by
    refine List.forall_mem_append.mpr ⟨areBlank, fun c isMember => ?_⟩
    obtain rfl := List.mem_singleton.mp isMember
    decide

theorem Gap.stops
    {gap : List Char}
    (isGap : Gap gap)
    (rest : List Char) :
    Stops (gap ++ rest) := by
  cases gap with
  | nil => exact absurd rfl isGap.nonempty
  | cons c gap => exact stops_of_blank (isGap.areBlank c List.mem_cons_self) _

/-- A text is completed with something behind any gap and in front of any stop. -/
def Completes
    (piece more : List Char)
    (spans : List Char → List Char → Prop) :
    Prop :=
  ∀ gap after, Gap gap → Stops after → spans (piece ++ (gap ++ more)) after

/-- More can be written behind what completes a text. -/
theorem Completes.behind
    {piece more more' : List Char}
    {first second : List Char → List Char → Prop}
    (completes : Completes piece more first)
    (completes' : Completes [] more' second) :
    Completes piece (more ++ ([' '] ++ more')) (Behind first second) := by
  intro gap after isGap stops
  have space : Gap [' '] := gap_append_space (List.forall_mem_nil _)
  refine ⟨piece ++ (gap ++ more), [' '] ++ more', by simp, ?_,
    completes' _ after space stops⟩
  exact completes gap _ isGap (List.append_assoc .. ▸ space.stops (more' ++ after))

theorem Completes.imp
    {piece more : List Char}
    {spans spans' : List Char → List Char → Prop}
    (completes : Completes piece more spans)
    (implies : ∀ piece rest, spans piece rest → spans' piece rest) :
    Completes piece more spans' :=
  fun gap after isGap stops => implies _ _ (completes gap after isGap stops)

/-! ## What can be written -/

/-- Something can be written behind any gap and in front of any stop. -/
def Writable (spans : List Char → List Char → Prop) : Prop :=
  ∃ more, ∀ gap after, Gap gap → Stops after → spans (gap ++ more) after

section

variable {first second spans spans' : List Char → List Char → Prop}

theorem Writable.imp
    (writable : Writable spans)
    (implies : ∀ piece rest, spans piece rest → spans' piece rest) :
    Writable spans' := by
  rcases writable with ⟨more, written⟩
  exact ⟨more, fun gap after isGap stops =>
    implies _ _ (written gap after isGap stops)⟩

theorem Writable.behind
    (writable : Writable first)
    (writable' : Writable second) :
    Writable (Behind first second) := by
  rcases writable with ⟨more, written⟩
  rcases writable' with ⟨more', written'⟩
  have completes : Completes [] more first := written
  exact ⟨_, completes.behind written'⟩

end

theorem writable_mark
    (mode : Mode)
    {c : Char}
    {kind : TokenKind}
    (isMark : Mark c kind) :
    Writable (Lexeme mode · · (·.kind = kind)) :=
  ⟨[c], fun _ _ isGap _ => (Lexeme.mark isMark).of_blanks isGap.areBlank⟩

theorem writable_colon : Writable (Lexeme .operator · · (·.kind = .colon)) := by
  refine ⟨[':'],
    fun gap after isGap stops => Lexeme.of_blanks isGap.areBlank (.colon ?_)⟩
  exact stops.any_eq_false continues_isNameFirst

theorem apart_of_stops
    {rest : List Char}
    (stops : Stops rest) :
    Apart rest := by
  intro c first
  rcases stops c first with ⟨notName, notJoining⟩
  refine ⟨notName, ?_⟩
  rintro rfl
  exact notJoining (by decide)

/-- A name behind a colon can be written wherever an operand is asked for. -/
theorem writable_name :
    Writable (Lexeme .operand · · fun token =>
      token.kind = .identifier ∧ Name token "a") := by
  refine ⟨[':', 'a'],
    fun gap after isGap stops => Lexeme.of_blanks isGap.areBlank ?_⟩
  exact Lexeme.identifier (by decide) (List.forall_mem_nil _)
    (apart_of_stops stops)

theorem writable_operand : Writable (Operand (ranks + 3) · · (.var "a" [])) :=
  writable_name.imp fun piece rest lexeme => by
    have operand : Operand (ranks + 3) (piece ++ []) rest _ :=
      .variable lexeme .noIndex
    rwa [List.append_nil] at operand

theorem writable_ternary : Writable (Spans .ternary · · (.var "a" [])) :=
  writable_operand.imp fun _ _ operand => operand.ternary

theorem writable_existing : Writable (Spans .existing · · (.var "a" [])) :=
  writable_name.imp fun piece rest lexeme => by
    have existing : Spans .existing (piece ++ []) rest _ :=
      Spans.existing lexeme .noIndex
    rwa [List.append_nil] at existing

/-- Nothing has to be written where the text may end. -/
theorem writable_end :
    Writable fun piece rest =>
      rest = [] → Lexeme .operator piece rest (·.kind = .endOfInput) := by
  refine ⟨[], fun gap after isGap _ isEmpty => ?_⟩
  subst isEmpty
  exact Lexeme.endOfInput.of_blanks isGap.areBlank

/-! ## What can be completed -/

/-- The text between two readers can be completed with something. -/
def Completable
    (s s' : Reader)
    (spans : List Char → List Char → Prop) :
    Prop :=
  ∃ piece more, s.Reads piece s' ∧ Completes piece more spans

section

variable {s s₁ s' : Reader}
  {first second spans spans' : List Char → List Char → Prop}

theorem Completable.imp
    (completable : Completable s s' spans)
    (implies : ∀ piece rest, spans piece rest → spans' piece rest) :
    Completable s s' spans' := by
  rcases completable with ⟨piece, more, reads, completes⟩
  exact ⟨piece, more, reads, completes.imp implies⟩

/-- Where nothing was read, everything is written. -/
theorem Writable.completable
    (writable : Writable spans)
    (s : Reader) :
    Completable s s spans := by
  rcases writable with ⟨more, completes⟩
  exact ⟨[], more, .refl s, completes⟩

/-- More can be written behind a completion. -/
theorem Completable.closed
    (completable : Completable s s' first)
    (writable : Writable second) :
    Completable s s' (Behind first second) := by
  rcases completable with ⟨piece, more, reads, completes⟩
  rcases writable with ⟨more', completes'⟩
  exact ⟨piece, _, reads, completes.behind completes'⟩

/-- What stands before a text that can be completed is moved along. -/
theorem Completable.after
    (completable : Completable s₁ s' second)
    (movable : Movable s s₁ first) :
    Completable s s' (Behind first second) := by
  rcases movable with ⟨piece, reads, moves⟩
  rcases completable with ⟨piece', more, reads', completes⟩
  refine ⟨piece ++ piece', more, reads.trans reads',
    fun gap after isGap stops => ?_⟩
  refine ⟨piece, piece' ++ (gap ++ more), by simp, moves _ ?_,
    completes gap after isGap stops⟩
  refine ⟨piece', s'.rest, gap ++ (more ++ after), reads'.rest_eq, by simp,
    isGap.stops _⟩

end

/-! ## First tokens -/

/-- A completed text still begins with the token that stands at the reader, or
with one that is no operator. -/
def Opens
    (s : Reader)
    (piece after : List Char) :
    Prop :=
  ∀ first s₁, Terminal .operand s first s₁ →
    Begins (piece ++ after) fun token => Moved first token ∨ Plain token

section

variable {s s₁ s' : Reader} {token : Token}
  {second spans : List Char → List Char → Prop}
variable {piece rest : List Char}

theorem Behind.opens
    (terminal : Terminal .operand s token s₁)
    (behind : Behind (Lexeme .operand · · (Moved token)) second piece rest) :
    Opens s piece rest := by
  rcases behind with ⟨left, right, rfl, lexeme, _⟩
  intro first s₂ terminal'
  rw [(terminal'.unique terminal).1]
  exact lexeme.begins fun _ => .inl

theorem Completable.opened
    (completable : Completable s₁ s' second)
    (terminal : Terminal .operand s token s₁)
    (notEnd : token.kind ≠ .endOfInput)
    (implies :
      ∀ piece rest, Behind (Lexeme .operand · · (Moved token)) second piece rest →
        spans piece rest) :
    Completable s s' fun piece rest => Opens s piece rest ∧ spans piece rest :=
  (completable.after (terminal.movable notEnd)).imp fun piece rest behind =>
    ⟨behind.opens terminal, implies piece rest behind⟩

theorem writable_primary
    (s : Reader) :
    Writable fun piece rest =>
      Opens s piece rest ∧ Spans .primary piece rest (.var "a" []) :=
  writable_name.imp fun piece rest lexeme => by
    have primary : Spans .primary (piece ++ []) rest _ :=
      Spans.variable lexeme .noIndex
    have begins : Begins (piece ++ [] ++ rest) Plain :=
      lexeme.begins fun _ meant => Plain.identifier meant.1
    rw [List.append_nil] at primary begins
    refine ⟨fun first s₁ _ past => ?_, primary⟩
    rcases begins past with ⟨token, s₂, terminal, plain⟩
    exact ⟨token, s₂, terminal, .inr plain⟩

end

end Formula.Grammar
