import Formula.Proofs.Source.Buffered
import Mathlib.Data.List.Forall2

/-!
# Handling of sources

A source is read, looked at, marked and reset in any order, and what comes of
every motion is noted together with the place behind it.  A handling says how a
kind of source makes the motions.  One handling follows another if it comes to
the same in every motion but for resets that it refuses; then the notes of both
are the same up to the first refusal.
-/

namespace Formula

/-- What is done with a source.  The marks are numbered in the order they are set
in. -/
inductive Motion where
  | next
  | peek
  | peekNext
  | mark
  | reset (number : Nat)
  deriving DecidableEq, Repr

/-- What comes of a motion. -/
inductive Reply where
  | char (c : Option Char)
  | marked (place : Place)
  | moved
  | unmarked
  | refused (fault : Fault)
  deriving DecidableEq, Repr

/-- Whether a motion was made. -/
def Reply.honoured : Reply → Bool
  | .refused _ => false
  | _ => true

/-- A source and the marks that were set in it, the first one first. -/
structure Marked (σ μ : Type) where
  source : σ
  marks : List μ := []

/-- How a source of the type `σ` makes the motions, its marks being of the type
`μ`. -/
structure Handling (σ μ : Type) where
  next : EStateM Fault σ (Option Char)
  peek : EStateM Fault σ (Option Char)
  peekNext : EStateM Fault σ (Option Char)
  mark : EStateM Fault σ μ
  reset : μ → EStateM Fault σ Unit
  place : σ → Place
  placeOf : μ → Place

namespace Handling

variable {σ τ μ ν : Type}

/-- The reply to an action that leaves the marks as they are. -/
def reply {α : Type}
    (form : α → Reply)
    (marks : List μ) :
    EStateM.Result Fault σ α → Reply × Marked σ μ
  | .ok answer source => (form answer, ⟨source, marks⟩)
  | .error fault source => (.refused fault, ⟨source, marks⟩)

/-- Makes a motion. -/
def perform
    (handling : Handling σ μ)
    (motion : Motion)
    (state : Marked σ μ) :
    Reply × Marked σ μ :=
  match motion with
  | .next => reply .char state.marks (handling.next state.source)
  | .peek => reply .char state.marks (handling.peek state.source)
  | .peekNext => reply .char state.marks (handling.peekNext state.source)
  | .mark =>
    match handling.mark state.source with
    | .ok mark source =>
      (.marked (handling.placeOf mark), ⟨source, state.marks ++ [mark]⟩)
    | .error fault source => (.refused fault, ⟨source, state.marks⟩)
  | .reset number =>
    match state.marks[number]? with
    | some mark =>
      reply (fun _ => .moved) state.marks (handling.reset mark state.source)
    | none => (.unmarked, state)

/-- Makes motions one after the other, and notes every reply with the place behind
it. -/
def run
    (handling : Handling σ μ)
    (state : Marked σ μ) :
    List Motion → List (Reply × Place) × Marked σ μ
  | [] => ([], state)
  | motion :: motions =>
    let made := handling.perform motion state
    let rest := handling.run made.2 motions
    ((made.1, handling.place made.2.source) :: rest.1, rest.2)

theorem run_cons
    (handling : Handling σ μ)
    (state : Marked σ μ)
    (motion : Motion)
    (motions : List Motion) :
    handling.run state (motion :: motions) =
      (((handling.perform motion state).1,
          handling.place (handling.perform motion state).2.source) ::
          (handling.run (handling.perform motion state).2 motions).1,
        (handling.run (handling.perform motion state).2 motions).2) :=
  rfl

/-- Two actions give the same answer, and leave related sources. -/
def Agree {α : Type}
    (related : σ → τ → Prop)
    (left : EStateM.Result Fault σ α)
    (right : EStateM.Result Fault τ α) :
    Prop :=
  ∃ answer s t, left = .ok answer s ∧ right = .ok answer t ∧ related s t

/-- Related sources together with as many marks, which are related as well. -/
structure Alike
    (related : σ → τ → Prop)
    (sameMark : μ → ν → Prop)
    (left : Marked σ μ)
    (right : Marked τ ν) :
    Prop where
  source : related left.source right.source
  marks : List.Forall₂ sameMark left.marks right.marks

theorem Alike.unmarked
    {related : σ → τ → Prop}
    {sameMark : μ → ν → Prop}
    {s : σ}
    {t : τ}
    (source : related s t) :
    Alike related sameMark ⟨s, []⟩ ⟨t, []⟩ where
  source := source
  marks := .nil

/-- One handling does what another does as long as it honours the marks. -/
structure Follows
    (left : Handling σ μ)
    (right : Handling τ ν)
    (related : σ → τ → Prop)
    (sameMark : μ → ν → Prop)
    (honours : σ → μ → Prop) :
    Prop where
  place : ∀ {s t}, related s t → left.place s = right.place t
  next : ∀ {s t}, related s t → Agree related (left.next s) (right.next t)
  peek : ∀ {s t}, related s t → Agree related (left.peek s) (right.peek t)
  peekNext :
    ∀ {s t}, related s t → Agree related (left.peekNext s) (right.peekNext t)
  mark : ∀ {s t}, related s t →
    ∃ m s' n t', left.mark s = .ok m s' ∧ right.mark t = .ok n t' ∧
      left.placeOf m = right.placeOf n ∧ sameMark m n ∧ related s' t'
  reset : ∀ {s t m n}, related s t → sameMark m n → honours s m →
    Agree related (left.reset m s) (right.reset n t)
  refuse : ∀ {s t m n}, related s t → sameMark m n → ¬ honours s m →
    ∃ fault, left.reset m s = .error fault s

variable
  {left : Handling σ μ}
  {right : Handling τ ν}
  {related : σ → τ → Prop}
  {sameMark : μ → ν → Prop}
  {honours : σ → μ → Prop}
  {state : Marked σ μ}
  {state' : Marked τ ν}

/-- A motion that both sides make alike. -/
structure Joint
    (related : σ → τ → Prop)
    (sameMark : μ → ν → Prop)
    (left : Reply × Marked σ μ)
    (right : Reply × Marked τ ν) :
    Prop where
  honoured : left.1.honoured = true
  reply_eq : left.1 = right.1
  alike : Alike related sameMark left.2 right.2

theorem Agree.reply {α : Type}
    {leftResult : EStateM.Result Fault σ α}
    {rightResult : EStateM.Result Fault τ α}
    {form : α → Reply}
    (made : ∀ answer, (form answer).honoured = true)
    (agree : Agree related leftResult rightResult)
    (sameMarks : List.Forall₂ sameMark state.marks state'.marks) :
    Joint related sameMark (reply form state.marks leftResult)
      (reply form state'.marks rightResult) := by
  rcases agree with ⟨answer, s, t, rfl, rfl, related'⟩
  constructor
  case honoured => exact made answer
  case reply_eq => rfl
  case alike => exact ⟨related', sameMarks⟩

namespace Follows

theorem perform_mark
    (follows : Follows left right related sameMark honours)
    (alike : Alike related sameMark state state') :
    Joint related sameMark (left.perform .mark state)
      (right.perform .mark state') := by
  rcases follows.mark alike.source with
    ⟨m, s, n, t, done, done', samePlace, same, related'⟩
  simp only [perform, done, done']
  constructor
  case honoured => rfl
  case reply_eq => exact congrArg Reply.marked samePlace
  case alike => exact ⟨related', List.rel_append alike.marks (.cons same .nil)⟩

theorem perform_reset
    (follows : Follows left right related sameMark honours)
    (number : Nat)
    (alike : Alike related sameMark state state') :
    Joint related sameMark (left.perform (.reset number) state)
        (right.perform (.reset number) state') ∨
      ∃ mark fault, state.marks[number]? = some mark ∧
        ¬ honours state.source mark ∧
          left.perform (.reset number) state = (.refused fault, state) := by
  have sameLength : state.marks.length = state'.marks.length :=
    alike.marks.length_eq
  by_cases within : number < state.marks.length
  · have within' : number < state'.marks.length := sameLength ▸ within
    have same : sameMark state.marks[number] state'.marks[number] :=
      alike.marks.get within within'
    simp only [perform, List.getElem?_eq_getElem within,
      List.getElem?_eq_getElem within']
    by_cases honoured : honours state.source state.marks[number]
    · apply Or.inl
      exact (follows.reset alike.source same honoured).reply
        (fun _ => rfl) alike.marks
    · apply Or.inr
      rcases follows.refuse alike.source same honoured with ⟨fault, refused⟩
      refine ⟨_, fault, rfl, honoured, ?_⟩
      rw [refused]
      rfl
  · have behind : state.marks.length ≤ number := Nat.le_of_not_lt within
    apply Or.inl
    simp only [perform, List.getElem?_eq_none behind,
      List.getElem?_eq_none (Nat.le_trans (Nat.le_of_eq sameLength.symm) behind)]
    exact ⟨rfl, rfl, alike⟩

/-- A motion comes to the same on both sides, or it is a reset that the left side
refuses and that changes nothing there. -/
theorem perform
    (follows : Follows left right related sameMark honours)
    (motion : Motion)
    (alike : Alike related sameMark state state') :
    Joint related sameMark (left.perform motion state)
      (right.perform motion state') ∨
        ∃ number mark fault,
          motion = .reset number ∧ state.marks[number]? = some mark ∧
            ¬ honours state.source mark ∧
            left.perform motion state = (.refused fault, state) := by
  cases motion with
  | next =>
      exact .inl ((follows.next alike.source).reply (fun _ => rfl) alike.marks)
  | peek =>
      exact .inl ((follows.peek alike.source).reply (fun _ => rfl) alike.marks)
  | peekNext =>
      exact .inl ((follows.peekNext alike.source).reply (fun _ => rfl) alike.marks)
  | mark => exact .inl (follows.perform_mark alike)
  | reset number =>
      rcases follows.perform_reset number alike with joint | ⟨mark, fault, refused⟩
      · exact .inl joint
      · exact .inr ⟨number, mark, fault, rfl, refused⟩

/-- Up to the first refusal the notes of both sides are the same. -/
theorem run_until_refusal
    (follows : Follows left right related sameMark honours)
    (motions : List Motion)
    (alike : Alike related sameMark state state') :
    (left.run state motions).1.takeWhile (·.1.honoured) <+:
      (right.run state' motions).1 := by
  induction motions generalizing state state' with
  | nil => exact List.prefix_refl []
  | cons motion motions ih =>
      rw [run_cons, run_cons]
      rcases follows.perform motion alike with joint | ⟨_, _, _, _, _, _, refused⟩
      · rw [List.takeWhile_cons_of_pos (by exact joint.honoured), joint.reply_eq,
          follows.place joint.alike.source]
        exact (List.prefix_cons_inj _).mpr (ih joint.alike)
      · rw [refused]
        exact List.nil_prefix

/-- If no mark is ever refused, all notes of both sides are the same. -/
theorem run_eq
    (follows : Follows left right related sameMark honours)
    (always : ∀ s m, honours s m)
    (motions : List Motion)
    (alike : Alike related sameMark state state') :
    (left.run state motions).1 = (right.run state' motions).1 ∧
      Alike related sameMark (left.run state motions).2
        (right.run state' motions).2 := by
  induction motions generalizing state state' with
  | nil => exact ⟨rfl, alike⟩
  | cons motion motions ih =>
      rcases follows.perform motion alike with
        joint | ⟨_, mark, _, _, _, refused, _⟩
      · rcases ih joint.alike with ⟨sameNotes, alike'⟩
        constructor
        · rw [run_cons, run_cons, joint.reply_eq, follows.place joint.alike.source]
          exact congrArg _ sameNotes
        · exact alike'
      · exact absurd (always _ mark) refused

end Follows

end Handling

end Formula
