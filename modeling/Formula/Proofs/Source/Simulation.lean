import Formula.Source.Basic

/-!
# Simulation of sources

Two sources are alike if no reader can tell them apart.  A `Simulation` is a
relation that reading and looking ahead keep; a `Rewinding` one also survives
going back to the mark that was set last.  This is all that scanners do with a
source, so what they find in related sources is the same.
-/

namespace Formula

open CharSource

theorem CharSource.readWhile_of_some {σ : Type} [CharSource σ]
    {p : Char → Bool}
    {s s' : σ}
    {c : Char}
    (taken : takeIf p s = (some c, s')) :
    readWhile p s = (c :: (readWhile p s').1, (readWhile p s').2) := by
  rw [readWhile]
  split <;> simp_all

theorem CharSource.readWhile_of_none {σ : Type} [CharSource σ]
    {p : Char → Bool}
    {s s' : σ}
    (taken : takeIf p s = (none, s')) :
    readWhile p s = ([], s') := by
  rw [readWhile]
  split <;> simp_all

/-- Equal answers together with related rests. -/
def Both {α σ τ : Type}
    (alike : σ → τ → Prop)
    (left : α × σ)
    (right : α × τ) :
    Prop :=
  left.1 = right.1 ∧ alike left.2 right.2

/-- Equal answers are one answer. -/
theorem Both.split {α σ τ : Type}
    {alike : σ → τ → Prop}
    {left : α × σ}
    {right : α × τ}
    (both : Both alike left right) :
    ∃ answer s t, left = (answer, s) ∧ right = (answer, t) ∧ alike s t :=
  ⟨left.1, left.2, right.2, rfl, Prod.ext both.1.symm rfl, both.2⟩

/-- What is known of the left answer is known of the right one. -/
theorem Both.right_eq {α σ τ : Type}
    {alike : σ → τ → Prop}
    {left : α × σ}
    {right : α × τ}
    {answer : α}
    {s : σ}
    (both : Both alike left right)
    (known : left = (answer, s)) :
    ∃ t, right = (answer, t) ∧ alike s t := by
  subst known
  exact ⟨right.2, Prod.ext both.1.symm rfl, both.2⟩

/-- A relation of sources that gives equal characters as long as they are read. -/
structure Simulation {σ τ : Type} [CharSource σ] [CharSource τ]
    (alike : σ → τ → Prop) : Prop where
  place : ∀ {s t}, alike s t → CharSource.place s = CharSource.place t
  next : ∀ {s t}, alike s t → Option.Rel (Both alike) (next s) (next t)
  peek : ∀ {s t}, alike s t → Both alike (peek s) (peek t)
  peekNext : ∀ {s t}, alike s t → Both alike (peekNext s) (peekNext t)

/--
A simulation under which related sources can go back to a mark that both just
set.  `since` relates the sources while they read on from the mark.
-/
structure Rewinding {σ τ : Type} [CharSource σ] [CharSource τ]
    (alike : σ → τ → Prop) : Prop extends Simulation alike where
  rewinds : ∀ {s t}, alike s t →
    ∃ since : σ → τ → Prop,
      Simulation since ∧
        since (mark s).2 (mark t).2 ∧
        ∀ {s' t'}, since s' t' →
          alike s' t' ∧
            Option.Rel alike (reset (mark s).1 s') (reset (mark t).1 t') ∧
              (reset (mark s).1 s').isSome

namespace Simulation

variable {σ τ : Type} [CharSource σ] [CharSource τ] {alike : σ → τ → Prop}

/-- Two related sources are both at their end, or both give the same character. -/
theorem next_cases
    (simulation : Simulation alike)
    {s : σ}
    {t : τ}
    (related : alike s t) :
    (CharSource.next s = none ∧ CharSource.next t = none) ∨
      ∃ c s' t',
        CharSource.next s = some (c, s') ∧ CharSource.next t = some (c, t') ∧
          alike s' t' := by
  have both := simulation.next related
  cases read : CharSource.next s <;> cases read' : CharSource.next t <;>
    rw [read, read'] at both <;> cases both
  case none.none => exact Or.inl ⟨rfl, rfl⟩
  case some.some both =>
    rcases both.split with ⟨c, s', t', rfl, rfl, related'⟩
    exact Or.inr ⟨c, s', t', rfl, rfl, related'⟩

theorem next_right
    (simulation : Simulation alike)
    {s s' : σ}
    {t : τ}
    {c : Char}
    (related : alike s t)
    (read : CharSource.next s = some (c, s')) :
    ∃ t', CharSource.next t = some (c, t') ∧ alike s' t' := by
  have both := simulation.next related
  rw [read] at both
  cases read' : CharSource.next t <;> rw [read'] at both <;> cases both
  case some both =>
    rcases both.right_eq rfl with ⟨t', rfl, related'⟩
    exact ⟨t', rfl, related'⟩

theorem next_right_none
    (simulation : Simulation alike)
    {s : σ}
    {t : τ}
    (related : alike s t)
    (atEnd : CharSource.next s = none) :
    CharSource.next t = none := by
  have both := simulation.next related
  rw [atEnd] at both
  cases atEnd' : CharSource.next t with
  | none => rfl
  | some _ =>
      rw [atEnd'] at both
      cases both

theorem take
    (simulation : Simulation alike)
    {s : σ}
    {t : τ}
    (related : alike s t) :
    Both alike (take s) (take t) := by
  rw [CharSource.take, CharSource.take]
  rcases simulation.next_cases related with
    ⟨atEnd, atEnd'⟩ | ⟨c, s', t', read, read', related'⟩
  · rw [atEnd, atEnd']
    exact ⟨rfl, related⟩
  · rw [read, read']
    exact ⟨rfl, related'⟩

theorem takeIf
    (simulation : Simulation alike)
    (p : Char → Bool)
    {s : σ}
    {t : τ}
    (related : alike s t) :
    Both alike (takeIf p s) (takeIf p t) := by
  rw [CharSource.takeIf, CharSource.takeIf]
  rcases (simulation.peek related).split with ⟨c, s', t', seen, seen', related'⟩
  rw [seen, seen']
  cases c with
  | none => exact ⟨rfl, related'⟩
  | some c =>
      simp only
      split
      · exact simulation.take related'
      · exact ⟨rfl, related'⟩

theorem sees
    (simulation : Simulation alike)
    (p : Char → Bool)
    {s : σ}
    {t : τ}
    (related : alike s t) :
    Both alike (sees p s) (sees p t) := by
  rw [CharSource.sees, CharSource.sees]
  rcases (simulation.peek related).split with ⟨c, s', t', seen, seen', related'⟩
  rw [seen, seen']
  cases c <;> exact ⟨rfl, related'⟩

theorem seesNext
    (simulation : Simulation alike)
    (p : Char → Bool)
    {s : σ}
    {t : τ}
    (related : alike s t) :
    Both alike (seesNext p s) (seesNext p t) := by
  rw [CharSource.seesNext, CharSource.seesNext]
  rcases (simulation.peekNext related).split with
    ⟨c, s', t', seen, seen', related'⟩
  rw [seen, seen']
  cases c <;> exact ⟨rfl, related'⟩

/-- Related sources read the same run.  The induction is on the rest of the left
one. -/
theorem readWhile
    (simulation : Simulation alike)
    (p : Char → Bool)
    {s : σ}
    {t : τ}
    (related : alike s t) :
    Both alike (readWhile p s) (readWhile p t) := by
  fun_induction CharSource.readWhile p s generalizing t with
  | case1 s c s' taken run rest whole ih =>
      rcases (simulation.takeIf p related).right_eq taken with
        ⟨t', taken', related'⟩
      rcases (ih related').right_eq whole with ⟨rest', whole', related''⟩
      rw [readWhile_of_some taken', whole']
      exact ⟨rfl, related''⟩
  | case2 s s' taken =>
      rcases (simulation.takeIf p related).right_eq taken with
        ⟨t', taken', related'⟩
      rw [readWhile_of_none taken']
      exact ⟨rfl, related'⟩

end Simulation

end Formula
