import Formula.Eval.Builtin
import Formula.Proofs.Number.Rounding

/-!
# Selection

The greatest and the least of some integers are selected by the floats that are
nearest to them.  The result is the first argument whose float is the greatest or
the least one.  It is the greatest or the least argument itself, unless it shares
its float with others, as integers from `2 ^ 53` on do.
-/

namespace Formula.Builtin

open Number

/-! ## The first best -/

section

variable {α : Type} {merit : α → Int}

/-- One item has more merit than all before it, and at least as much as those
behind it. -/
def FirstBest (merit : α → Int) (items : List α) (best : α) : Prop :=
  ∃ before after, items = before ++ best :: after ∧
    (∀ item ∈ before, merit item < merit best) ∧
    ∀ item ∈ after, merit item ≤ merit best

namespace FirstBest

variable {items : List α} {first next best : α}

theorem le
    (isBest : FirstBest merit items best)
    {item : α}
    (isItem : item ∈ items) :
    merit item ≤ merit best := by
  rcases isBest with ⟨before, after, rfl, less, atMost⟩
  rcases List.mem_append.mp isItem with isBefore | isItem
  · exact (less item isBefore).le
  · rcases List.mem_cons.mp isItem with rfl | isAfter
    · exact Int.le_refl _
    · exact atMost item isAfter

/-- What the first best one beats can stand in front. -/
theorem cons
    (isBest : FirstBest merit items best)
    (beaten : merit first < merit best) :
    FirstBest merit (first :: items) best := by
  rcases isBest with ⟨before, after, rfl, less, atMost⟩
  exact ⟨first :: before, after, rfl,
    List.forall_mem_cons.mpr ⟨beaten, less⟩, atMost⟩

/-- What does not beat the first one can stand behind it. -/
theorem insert
    (isBest : FirstBest merit (first :: items) best)
    (atMost : merit next ≤ merit first) :
    FirstBest merit (first :: next :: items) best := by
  rcases isBest with ⟨_ | ⟨head, before⟩, after, split, less, atMostBest⟩
  · obtain ⟨rfl, rfl⟩ := List.cons.inj split
    exact ⟨[], next :: items, rfl, nofun,
      List.forall_mem_cons.mpr ⟨atMost, atMostBest⟩⟩
  · obtain ⟨rfl, rfl⟩ := List.cons.inj split
    rcases List.forall_mem_cons.mp less with ⟨firstLess, less⟩
    have nextLess := atMost.trans_lt firstLess
    exact ⟨first :: next :: before, after, rfl,
      List.forall_mem_cons.mpr
        ⟨firstLess, List.forall_mem_cons.mpr ⟨nextLess, less⟩⟩,
      atMostBest⟩

/-- The first best image is the image of the first best item. -/
theorem of_map
    {β : Type}
    {image : β → α}
    {items : List β}
    (isBest : FirstBest merit (items.map image) best) :
    ∃ item, image item = best ∧
      FirstBest (fun item => merit (image item)) items item := by
  rcases isBest with ⟨before, after, split, less, atMost⟩
  rcases List.map_eq_append_iff.mp split with ⟨before, rest, rfl, rfl, isRest⟩
  rcases List.map_eq_cons_iff.mp isRest with ⟨item, after, rfl, rfl, rfl⟩
  exact ⟨item, rfl, before, after, rfl,
    fun other isIn => less _ (List.mem_map_of_mem isIn),
    fun other isIn => atMost _ (List.mem_map_of_mem isIn)⟩

end FirstBest

end

/-- Where a merit says which float is better, the winner is the first best one. -/
theorem exists_firstBest
    {better : Float → Float → Bool}
    {merit : Float → Int}
    (first : Value × Float)
    (rest : List (Value × Float))
    (ordered : ∀ p ∈ first :: rest, ∀ q ∈ first :: rest,
      better p.2 q.2 = true ↔ merit q.2 < merit p.2) :
    ∃ best, FirstBest (merit ·.2) (first :: rest) best ∧
      winner better first rest = best.1 := by
  induction rest generalizing first with
  | nil => exact ⟨first, ⟨[], [], rfl, nofun, nofun⟩, rfl⟩
  | cons next rest ih =>
      have isBetter := ordered next (.tail _ (.head _)) first (.head _)
      rw [winner]
      split
      case isTrue wins =>
        have orderedRest :=
          fun p isIn q isIn' => ordered p (.tail _ isIn) q (.tail _ isIn')
        rcases ih next orderedRest with ⟨best, isBest, isWinner⟩
        have beaten := (isBetter.mp wins).trans_le (isBest.le (.head _))
        exact ⟨best, isBest.cons beaten, isWinner⟩
      case isFalse loses =>
        have inBoth : ∀ p ∈ first :: rest, p ∈ first :: next :: rest :=
          List.forall_mem_cons.mpr ⟨.head _, fun p isIn => .tail _ (.tail _ isIn)⟩
        have orderedRest :=
          fun p isIn q isIn' => ordered p (inBoth p isIn) q (inBoth q isIn')
        rcases ih first orderedRest with ⟨best, isBest, isWinner⟩
        rw [isBetter] at loses
        exact ⟨best, isBest.insert (not_lt.mp loses), isWinner⟩

/-- Arguments that all count as floats are selected by them. -/
theorem select_eq_winner
    {better : Float → Float → Bool}
    {arguments : List Value}
    {xs : List Float}
    {first : Value × Float}
    {rest : List (Value × Float)}
    (present : degenerate? arguments = none)
    (floats : arguments.mapM Value.fetchFloat = .ok xs)
    (pairs : arguments.zip xs = first :: rest) :
    select better arguments = (winner better first rest).castNumeric := by
  rw [select, onFloats, present, floats]
  dsimp only [bind, Except.bind]
  rw [pairs]

/-! ## Integers -/

/-- The float that is nearest to a word. -/
def nearest (n : Int64) : Float :=
  ofInt n.toInt

/-- A word beside the float that it counts as. -/
def beside (n : Int64) : Value × Float :=
  (.int n, nearest n)

/-- Integers are selected by their floats. -/
theorem select_ints
    (better : Float → Float → Bool)
    (merit : Float → Int)
    (ordered : ∀ m n, better (nearest m) (nearest n) = true ↔
      merit (nearest n) < merit (nearest m))
    {ns : List Int64}
    (notEmpty : ns ≠ []) :
    ∃ best, FirstBest (fun n => merit (nearest n)) ns best ∧
      select better (ns.map .int) = .ok (.int best) := by
  have present : degenerate? (ns.map .int) = none := by
    have absent : (ns.map .int).any Value.isAbsent = false := by
      simp [Value.isAbsent]
    have null : (ns.map .int).any Value.isNull = false := by
      simp [Value.isNull]
    have some : (ns.map Value.int).isEmpty = false := by
      simpa using notEmpty
    rw [degenerate?, some, absent, null]
    rfl
  have floats :
      (ns.map Value.int).mapM Value.fetchFloat = .ok (ns.map nearest) := by
    clear present notEmpty
    induction ns with
    | nil => rfl
    | cons n ns ih =>
        rw [List.map_cons, List.mapM_cons, ih]
        rfl
  have pairs : (ns.map Value.int).zip (ns.map nearest) = ns.map beside :=
    List.zip_map'
  obtain ⟨n, rest, rfl⟩ := List.exists_cons_of_ne_nil notEmpty
  have orderedPairs : ∀ p ∈ (n :: rest).map beside, ∀ q ∈ (n :: rest).map beside,
      better p.2 q.2 = true ↔ merit q.2 < merit p.2 :=
    List.forall_mem_map.mpr fun m _ =>
      List.forall_mem_map.mpr fun n _ => ordered m n
  rcases exists_firstBest (beside n) (rest.map beside) orderedPairs with
    ⟨pair, isBest, isWinner⟩
  rw [← List.map_cons] at isBest
  obtain ⟨best, rfl, bestInt⟩ := isBest.of_map
  refine ⟨best, bestInt, ?_⟩
  have isWinner' : select better ((n :: rest).map .int) =
      (winner better (beside n) (rest.map beside)).castNumeric :=
    select_eq_winner present floats pairs
  rw [isWinner', isWinner]
  rfl

theorem nearest_lt_iff (m n : Int64) :
    nearest m < nearest n ↔ rank (nearest m) < rank (nearest n) :=
  lt_iff_rank_lt (isNaN_ofInt (natAbs_toInt_lt m))
    (isNaN_ofInt (natAbs_toInt_lt n))

/-- Two different integers count as the same float.  They are not below `2 ^
53`. -/
structure SharesFloat (m n : Int64) : Prop where
  nearest_eq : nearest m = nearest n
  large : 2 ^ 53 ≤ m.toInt.natAbs
  large' : 2 ^ 53 ≤ n.toInt.natAbs

/-- The float of a greater integer is greater, if it is another one. -/
theorem lt_or_sharesFloat
    {m n : Int64}
    (atMost : rank (nearest m) ≤ rank (nearest n)) :
    m = n ∨ m.toInt < n.toInt ∨ SharesFloat m n := by
  rcases lt_trichotomy m.toInt n.toInt with less | same | greater
  · exact .inr (.inl less)
  · exact .inl (Int64.toInt_inj.mp same)
  · have mono := rank_ofInt_mono (natAbs_toInt_lt n) (natAbs_toInt_lt m) greater.le
    have sameRank := le_antisymm atMost mono
    have large :=
      large_of_rank_eq sameRank (natAbs_toInt_lt m) (natAbs_toInt_lt n) greater.ne'
    have same :=
      ofInt_eq_of_rank_eq sameRank (natAbs_toInt_lt m) (natAbs_toInt_lt n)
    exact .inr (.inr ⟨same, large.1, large.2⟩)

theorem lt_of_rank_lt
    {m n : Int64}
    (less : rank (nearest m) < rank (nearest n)) :
    m.toInt < n.toInt ∧ nearest m ≠ nearest n := by
  refine ⟨?_, fun same => less.ne (congrArg rank same)⟩
  by_contra notLess
  have mono :=
    rank_ofInt_mono (natAbs_toInt_lt n) (natAbs_toInt_lt m) (not_lt.mp notLess)
  exact absurd less (not_lt.mpr mono)

/-- The selected integer is better than those in front of it, and their floats are
others.  It is better than all different ones behind it that do not share its
float. -/
def IsSelected
    (better : Int → Int → Prop)
    (ns : List Int64)
    (best : Int64) :
    Prop :=
  ∃ front behind, ns = front ++ best :: behind ∧
    (∀ n ∈ front, better best.toInt n.toInt ∧ nearest n ≠ nearest best) ∧
      ∀ n ∈ behind, n = best ∨ better best.toInt n.toInt ∨ SharesFloat n best

/-- Of any integers, the greatest and the least one are found, except that
integers that share a float count as equal. -/
theorem exists_max_min
    {ns : List Int64}
    (notEmpty : ns ≠ []) :
    (∃ greatest, call "max" (ns.map .int) = .ok (.int greatest) ∧
        IsSelected (· > ·) ns greatest) ∧
      ∃ least, call "min" (ns.map .int) = .ok (.int least) ∧
      IsSelected (· < ·) ns least := by
  constructor
  · have ordered (m n : Int64) : decide (nearest n < nearest m) = true ↔
        rank (nearest n) < rank (nearest m) :=
      decide_eq_true_iff.trans (nearest_lt_iff n m)
    rcases select_ints (fun x y => y < x) rank ordered notEmpty with
      ⟨best, ⟨front, behind, split, less, atMost⟩, isResult⟩
    exact ⟨best, isResult, front, behind, split,
      fun n isIn => lt_of_rank_lt (less n isIn),
      fun n isIn => lt_or_sharesFloat (atMost n isIn)⟩
  · have ordered (m n : Int64) : decide (nearest m < nearest n) = true ↔
        -rank (nearest n) < -rank (nearest m) :=
      decide_eq_true_iff.trans ((nearest_lt_iff m n).trans Int.neg_lt_neg_iff.symm)
    rcases select_ints (fun x y => x < y) (fun x => -rank x) ordered notEmpty with
      ⟨best, ⟨front, behind, split, less, atMost⟩, isResult⟩
    refine ⟨best, isResult, front, behind, split, fun n isIn => ?_,
      fun n isIn => ?_⟩
    · have isLess := lt_of_rank_lt (Int.neg_lt_neg_iff.mp (less n isIn))
      exact ⟨isLess.1, isLess.2.symm⟩
    · rcases lt_or_sharesFloat (Int.neg_le_neg_iff.mp (atMost n isIn)) with
        same | less | shares
      · exact .inl same.symm
      · exact .inr (.inl less)
      · exact .inr (.inr ⟨shares.nearest_eq.symm, shares.large', shares.large⟩)

/-- The greatest of some integers that are below `2 ^ 53` or not. -/
theorem exists_max_min_mixed :
    [3, -7, 9007199254740993, 3] ≠ ([] : List Int64) ∧
      (∃ greatest, call "max" ([3, -7, 9007199254740993, 3].map .int) =
        .ok (.int greatest) ∧
          IsSelected (· > ·) [3, -7, 9007199254740993, 3] greatest) ∧
        ∃ least, call "min" ([3, -7, 9007199254740993, 3].map .int) =
            .ok (.int least) ∧
          IsSelected (· < ·) [3, -7, 9007199254740993, 3] least :=
  ⟨by decide, exists_max_min (by decide)⟩

/-- The greatest integer is not always found:
`2 ^ 53 + 1` has the float of `2 ^ 53`. -/
theorem max_not_greatest :
    ¬∀ ns : List Int64, ns ≠ [] → ∃ greatest ∈ ns,
      call "max" (ns.map .int) = .ok (.int greatest) ∧
        ∀ n ∈ ns, n.toInt ≤ greatest.toInt := by
  intro always
  rcases always [9007199254740992, 9007199254740993] (by decide) with
    ⟨greatest, -, isResult, atMost⟩
  have first : call "max" ([9007199254740992, 9007199254740993].map .int) =
      .ok (.int 9007199254740992) := by
    decide +kernel
  obtain rfl := Value.int.inj (Except.ok.inj (first.symm.trans isResult))
  exact absurd (atMost 9007199254740993 (by decide)) (by decide)

end Formula.Builtin
