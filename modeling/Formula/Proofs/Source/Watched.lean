import Formula.Proofs.Source.Simulation

/-!
# Watched sources

A watched source is a source that keeps in mind whether anything was looked at in
it.  Scanners find the same in it as in the source itself, so it shows when a
tokenizer begins to read without changing what the tokenizer does.
-/

namespace Formula

section

variable {α β γ : Type} {left : Option α} {right : Option β}
  {related : α → β → Prop}

/-- What is related is so behind a function that keeps it. -/
theorem rel_map
    {f : α → γ}
    {related' : γ → β → Prop}
    (both : Option.Rel related left right)
    (keeps : ∀ a b, related a b → related' (f a) b) :
    Option.Rel related' (left.map f) right := by
  cases both with
  | none => exact .none
  | some same => exact .some (keeps _ _ same)

/-- What is related to something can be related to itself. -/
theorem rel_self
    {related' : α → α → Prop}
    (both : Option.Rel related left right)
    (keeps : ∀ a b, related a b → related' a a) :
    Option.Rel related' left left := by
  cases both with
  | none => exact .none
  | some same => exact .some (keeps _ _ same)

end

/-- A source, and whether a character of it was read or looked for. -/
structure Watched (σ : Type) where
  bare : σ
  asked : Bool := false

namespace Watched

/-- A source that nothing was looked at in so far. -/
def of {σ : Type} (source : σ) : Watched σ where
  bare := source

variable {σ τ : Type} [CharSource σ] [CharSource τ]

theorem next_cases
    {s s' : Watched σ}
    {c : Char}
    (read :
      (CharSource.next s.bare).map (fun step => (step.1, Watched.mk step.2 true)) =
        some (c, s')) :
    CharSource.next s.bare = some (c, s'.bare) ∧ s'.asked = true := by
  rcases Option.map_eq_some_iff.mp read with ⟨⟨d, rest⟩, found, same⟩
  obtain ⟨rfl, rfl⟩ := Prod.mk.inj same
  exact ⟨found, rfl⟩

theorem reset_cases
    {mark : Mark}
    {s s' : Watched σ}
    (done : (CharSource.reset mark s.bare).map (Watched.mk · s.asked) = some s') :
    CharSource.reset mark s.bare = some s'.bare := by
  rcases Option.map_eq_some_iff.mp done with ⟨back, found, rfl⟩
  exact found

instance : CharSource (Watched σ) where
  next s := (CharSource.next s.bare).map fun step => (step.1, ⟨step.2, true⟩)
  peek s := ((CharSource.peek s.bare).1, ⟨(CharSource.peek s.bare).2, true⟩)
  peekNext s :=
    ((CharSource.peekNext s.bare).1, ⟨(CharSource.peekNext s.bare).2, true⟩)
  mark s := ((CharSource.mark s.bare).1, ⟨(CharSource.mark s.bare).2, s.asked⟩)
  reset mark s := (CharSource.reset mark s.bare).map (⟨·, s.asked⟩)
  place s := CharSource.place s.bare
  offset s := CharSource.offset s.bare
  total s := CharSource.total s.bare
  offset_next read := CharSource.offset_next (next_cases read).1
  offset_le s := CharSource.offset_le s.bare
  total_next read := CharSource.total_next (next_cases read).1
  offset_peek s := CharSource.offset_peek s.bare
  total_peek s := CharSource.total_peek s.bare
  offset_peekNext s := CharSource.offset_peekNext s.bare
  total_peekNext s := CharSource.total_peekNext s.bare
  offset_mark s := CharSource.offset_mark s.bare
  total_mark s := CharSource.total_mark s.bare
  offset_reset done := CharSource.offset_reset (reset_cases done)
  total_reset done := CharSource.total_reset (reset_cases done)

/-- Looking for the next character is noticed, so a run is read the same if
something was looked at before. -/
theorem readWhile_eq
    (p : Char → Bool)
    (s : Watched σ) :
    CharSource.readWhile p s =
      CharSource.readWhile p { s with asked := true } := by
  have same :
      CharSource.takeIf p s = CharSource.takeIf p { s with asked := true } := rfl
  cases took : CharSource.takeIf p s with
  | mk c rest =>
      have took' := same.symm.trans took
      cases c with
      | some c =>
          rw [CharSource.readWhile_of_some took,
            CharSource.readWhile_of_some took']
      | none =>
          rw [CharSource.readWhile_of_none took,
            CharSource.readWhile_of_none took']

/-! ## Watching changes nothing -/

/-- The bare source is related, and it was looked into if this is said of it. -/
def Over (alike : σ → τ → Prop) (asked : Bool) (s : Watched σ) (t : τ) : Prop :=
  alike s.bare t ∧ (asked = true → s.asked = true)

variable {alike : σ → τ → Prop} {asked : Bool}

theorem simulation_over
    (simulation : Simulation alike)
    (asked : Bool) :
    Simulation (Over alike asked) where
  place related := simulation.place related.1
  next related :=
    rel_map (simulation.next related.1) fun _ _ both =>
      ⟨both.1, both.2, fun _ => rfl⟩
  peek related :=
    ⟨(simulation.peek related.1).1, (simulation.peek related.1).2, fun _ => rfl⟩
  peekNext related :=
    ⟨(simulation.peekNext related.1).1, (simulation.peekNext related.1).2,
      fun _ => rfl⟩

theorem rewinding_over
    (rewinding : Rewinding alike)
    (asked : Bool) :
    Rewinding (Over alike asked) where
  toSimulation := simulation_over rewinding.toSimulation asked
  rewinds := by
    intro s t related
    rcases rewinding.rewinds related.1 with ⟨since, simulation, marked, goesBack⟩
    refine ⟨Over since asked, simulation_over simulation asked,
      ⟨marked, related.2⟩, ?_⟩
    intro s' t' related'
    rcases goesBack related'.1 with ⟨again, back, honoured⟩
    refine ⟨⟨again, related'.2⟩,
      rel_map back fun _ _ same => ⟨same, related'.2⟩, ?_⟩
    change ((CharSource.reset (CharSource.mark s.bare).1 s'.bare).map _).isSome =
      true
    rw [Option.isSome_map]
    exact honoured

end Watched

/-! ## Sources that are related to something -/

/-- What keeps two sources alike keeps the left one alike to itself. -/
theorem Simulation.diagonal
    {σ τ : Type}
    [CharSource σ]
    [CharSource τ]
    {alike : σ → τ → Prop}
    (simulation : Simulation alike) :
    Simulation fun s s' : σ => s = s' ∧ ∃ t, alike s t where
  place related := congrArg CharSource.place related.1
  next := by
    rintro s _ ⟨rfl, t, related⟩
    exact rel_self (simulation.next related) fun _ _ both => ⟨rfl, rfl, _, both.2⟩
  peek := by
    rintro s _ ⟨rfl, t, related⟩
    exact ⟨rfl, rfl, _, (simulation.peek related).2⟩
  peekNext := by
    rintro s _ ⟨rfl, t, related⟩
    exact ⟨rfl, rfl, _, (simulation.peekNext related).2⟩

theorem Rewinding.diagonal
    {σ τ : Type}
    [CharSource σ]
    [CharSource τ]
    {alike : σ → τ → Prop}
    (rewinding : Rewinding alike) :
    Rewinding fun s s' : σ => s = s' ∧ ∃ t, alike s t where
  toSimulation := rewinding.toSimulation.diagonal
  rewinds := by
    rintro s _ ⟨rfl, t, related⟩
    rcases rewinding.rewinds related with ⟨since, simulation, marked, goesBack⟩
    refine ⟨_, simulation.diagonal, ⟨rfl, _, marked⟩, ?_⟩
    rintro s' _ ⟨rfl, t', since⟩
    rcases goesBack since with ⟨again, back, honoured⟩
    exact ⟨⟨rfl, t', again⟩, rel_self back fun _ t'' same => ⟨rfl, t'', same⟩,
      honoured⟩

end Formula
