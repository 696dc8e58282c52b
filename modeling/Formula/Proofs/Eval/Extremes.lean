import Formula.Proofs.Eval.Comparisons
import Formula.Proofs.Eval.Selection

/-!
# The first extreme argument

Arguments of any kinds are selected by the floats that they count as.  The
greatest and the least one is the first of those whose float is at least, or at
most, that of every other; what is returned is the number that this argument is,
in its own kind.  Before anything is selected, an empty argument decides the
result, and then the first argument that counts as no float.
-/

namespace Formula

/-! ## Numbers -/

namespace Value

/-- What counts as a float is a number, an integer or a float of the same float
value. -/
theorem exists_castNumeric
    {value : Value}
    {x : Float}
    (isFloat : value.fetchFloat = .ok x) :
    ∃ number, value.castNumeric = .ok number ∧ number.fetchFloat = .ok x ∧
      (number.type = .int ∨ number.type = .float) := by
  -- A text is the literal that it spells, so it is one of
  -- the other kinds that is left.
  have ofScalar :
      ∀ value : Value, value.fetchFloat = .ok x → (∀ s, value ≠ str s) →
      ∃ number, value.castNumeric = .ok number ∧ number.fetchFloat = .ok x ∧
        (number.type = .int ∨ number.type = .float) := by
    intro value isFloat notText
    cases value with
    | absent | null => cases isFloat
    | int n => exact ⟨int n, rfl, isFloat, .inl rfl⟩
    | float y => exact ⟨float y, rfl, isFloat, .inr rfl⟩
    | str s => exact absurd rfl (notText s)
    | bool b =>
        refine ⟨int (intOfBool b), rfl, ?_, .inl rfl⟩
        rw [← isFloat]
        cases b <;> decide +kernel
  by_cases isText : ∃ s, value = str s
  · rcases isText with ⟨s, rfl⟩
    cases spelled : ofLiteral? s with
    | none =>
        have converted := castFloat_of_fetchFloat isFloat
        rw [castFloat, literalOf, spelled] at converted
        cases converted
    | some literal =>
        have same := sameConversions_of_ofLiteral? spelled
        rw [same.fetchFloat_eq] at isFloat
        rw [same.castNumeric_eq]
        refine ofScalar literal isFloat fun s isText => ?_
        rcases scalar_of_ofLiteral? spelled with
          ⟨n, rfl⟩ | ⟨y, rfl⟩ | ⟨b, rfl⟩ <;> cases isText
  · exact ofScalar value isFloat fun s isStr => isText ⟨s, isStr⟩

end Value

namespace Builtin

open Number

variable {arguments : List Value}

/-! ## Arguments that leave nothing to select -/

theorem degenerate?_of_absent (absent : .absent ∈ arguments) :
    degenerate? arguments = some .absent := by
  have notEmpty : arguments.isEmpty = false := by
    rw [List.isEmpty_eq_false_iff]
    exact List.ne_nil_of_mem absent
  have anyAbsent : arguments.any Value.isAbsent = true :=
    List.any_eq_true.mpr ⟨_, absent, rfl⟩
  simp only [degenerate?, notEmpty, anyAbsent, Bool.false_eq_true, ↓reduceIte]

theorem any_isAbsent_eq_false (present : .absent ∉ arguments) :
    arguments.any Value.isAbsent = false := by
  rw [List.any_eq_false]
  intro value isMember isAbsent
  cases value with
  | absent => exact present isMember
  | _ => cases isAbsent

theorem degenerate?_of_null
    (present : .absent ∉ arguments)
    (null : .null ∈ arguments) :
    degenerate? arguments = some .null := by
  have notEmpty : arguments.isEmpty = false := by
    rw [List.isEmpty_eq_false_iff]
    exact List.ne_nil_of_mem null
  have anyNull : arguments.any Value.isNull = true :=
    List.any_eq_true.mpr ⟨_, null, rfl⟩
  simp only [degenerate?, notEmpty, any_isAbsent_eq_false present, anyNull,
    Bool.false_eq_true, ↓reduceIte]

theorem degenerate?_of_present
    (notEmpty : arguments ≠ [])
    (present : .absent ∉ arguments)
    (something : .null ∉ arguments) :
    degenerate? arguments = none := by
  have noNull : arguments.any Value.isNull = false := by
    rw [List.any_eq_false]
    intro value isMember isNull
    cases value with
    | null => exact something isMember
    | _ => cases isNull
  have notEmpty' : arguments.isEmpty = false :=
    List.isEmpty_eq_false_iff.mpr notEmpty
  simp only [degenerate?, notEmpty', any_isAbsent_eq_false present, noNull,
    Bool.false_eq_true, ↓reduceIte]

/-- The first argument that counts as no float decides what the arguments count
as. -/
theorem mapM_fetchFloat_of_error
    {front behind : List Value}
    {value : Value}
    {e : Error}
    (before : ∀ argument ∈ front, ∃ x, argument.fetchFloat = .ok x)
    (refused : value.fetchFloat = .error e) :
    (front ++ value :: behind).mapM Value.fetchFloat = .error e := by
  induction front with
  | nil =>
      rw [List.nil_append, List.mapM_cons, refused]
      rfl
  | cons argument front ih =>
      rcases List.forall_mem_cons.mp before with ⟨⟨x, isFloat⟩, before⟩
      rw [List.cons_append, List.mapM_cons, isFloat, ih before]
      rfl

/-- Arguments that all count as floats, each beside its own. -/
theorem exists_pairs
    {isGood : Float → Prop}
    (counted :
      ∀ argument ∈ arguments, ∃ x, argument.fetchFloat = .ok x ∧ isGood x) :
    ∃ pairs : List (Value × Float), pairs.map Prod.fst = arguments ∧
      arguments.mapM Value.fetchFloat = .ok (pairs.map Prod.snd) ∧
        ∀ pair ∈ pairs, pair.1.fetchFloat = .ok pair.2 ∧ isGood pair.2 := by
  induction arguments with
  | nil => exact ⟨[], rfl, rfl, nofun⟩
  | cons argument arguments ih =>
      rcases List.forall_mem_cons.mp counted with ⟨⟨x, isFloat, isGood⟩, counted⟩
      rcases ih counted with ⟨pairs, rfl, floats, arePairs⟩
      refine ⟨(argument, x) :: pairs, rfl, ?_,
        List.forall_mem_cons.mpr ⟨⟨isFloat, isGood⟩, arePairs⟩⟩
      rw [List.mapM_cons, isFloat, floats]
      rfl

/-! ## The first extreme -/

/-- The value counts as a float, and every argument that does is on one side of
it. -/
def Extreme
    (atMost : Float → Float → Prop)
    (arguments : List Value)
    (value : Value) : Prop :=
  ∃ x, value.fetchFloat = .ok x ∧
    ∀ argument ∈ arguments, ∀ y, argument.fetchFloat = .ok y → atMost y x

/-- The argument at the smallest position where an extreme one stands. -/
structure FirstExtreme
    (atMost : Float → Float → Prop)
    (arguments : List Value)
    (position : Nat)
    (value : Value) :
    Prop where
  at_position : arguments[position]? = some value
  extreme : Extreme atMost arguments value
  first : ∀ earlier < position, ∀ argument, arguments[earlier]? = some argument →
    ¬ Extreme atMost arguments argument

/-- What is to be answered to the question for an extreme argument.  Nothing is
said of arguments among which one counts as a NaN, if it comes to selecting one of
them. -/
structure Answers
    (atMost : Float → Float → Prop)
    (arguments : List Value)
    (answer : Except Error Value) :
    Prop where
  absent : .absent ∈ arguments → answer = .ok .absent
  null : .absent ∉ arguments → .null ∈ arguments → answer = .ok .null
  refused : .absent ∉ arguments → .null ∉ arguments → ∀ front value behind e,
    arguments = front ++ value :: behind →
      (∀ argument ∈ front, ∃ x, argument.fetchFloat = .ok x) →
        value.fetchFloat = .error e →
          answer = .error e
  selected : arguments ≠ [] → .absent ∉ arguments → .null ∉ arguments →
    (∀ argument ∈ arguments, ∃ x, argument.fetchFloat = .ok x ∧ x.isNaN = false) →
      ∃ position value number, FirstExtreme atMost arguments position value ∧
        value.castNumeric = .ok number ∧ answer = .ok number ∧
          number.fetchFloat = value.fetchFloat ∧
          (number.type = .int ∨ number.type = .float)

section

variable {better : Float → Float → Bool} {atMost : Float → Float → Prop}
  {merit : Float → Int}

/-- Of arguments beside their floats, the first best one is the first extreme
one. -/
theorem firstExtreme_of_firstBest
    {pairs before after : List (Value × Float)}
    {best : Value × Float}
    (isAtMost :
      ∀ x y, x.isNaN = false → y.isNaN = false → (atMost x y ↔ merit x ≤ merit y))
    (arePairs :
      ∀ pair ∈ pairs, pair.1.fetchFloat = .ok pair.2 ∧ pair.2.isNaN = false)
    (split : pairs = before ++ best :: after)
    (less : ∀ pair ∈ before, merit pair.2 < merit best.2)
    (isMost : ∀ pair ∈ pairs, merit pair.2 ≤ merit best.2) :
    FirstExtreme atMost (pairs.map Prod.fst) before.length best.1 := by
  have isBest : best ∈ pairs :=
    split ▸ List.mem_append_right before List.mem_cons_self
  rcases arePairs best isBest with ⟨isFloat, isNumber⟩
  constructor
  case at_position => simp [split]
  case extreme =>
    refine ⟨best.2, isFloat,
      List.forall_mem_map.mpr fun pair isPair y isFloat' => ?_⟩
    rcases arePairs pair isPair with ⟨counts, isNumber'⟩
    obtain rfl := Except.ok.inj (counts.symm.trans isFloat')
    exact (isAtMost _ _ isNumber' isNumber).mpr (isMost pair isPair)
  case first =>
    rintro earlier isEarlier argument isThere ⟨x, counts, isExtreme⟩
    have inFront : (pairs.map Prod.fst)[earlier]? = some before[earlier].1 := by
      rw [split, List.getElem?_map, List.getElem?_append_left isEarlier,
        List.getElem?_eq_getElem isEarlier]
      rfl
    obtain rfl := Option.some.inj (inFront.symm.trans isThere)
    have isPair : before[earlier] ∈ pairs :=
      split ▸ List.mem_append_left _ (List.getElem_mem isEarlier)
    rcases arePairs _ isPair with ⟨counts', isNumber'⟩
    obtain rfl := Except.ok.inj (counts'.symm.trans counts)
    have atLeast := (isAtMost _ _ isNumber isNumber').mp
      (isExtreme best.1 (List.mem_map_of_mem isBest) best.2 isFloat)
    exact absurd (less _ (List.getElem_mem isEarlier)) (not_lt.mpr atLeast)

/-- Where a merit says what is better and what is at most as good, the selection
answers the question for the best. -/
theorem answers_select
    (isBetter : ∀ x y, x.isNaN = false → y.isNaN = false →
      (better x y = true ↔ merit y < merit x))
    (isAtMost :
      ∀ x y, x.isNaN = false → y.isNaN = false → (atMost x y ↔ merit x ≤ merit y))
    (arguments : List Value) :
    Answers atMost arguments (select better arguments) := by
  constructor
  case absent =>
    intro absent
    rw [select, onFloats, degenerate?_of_absent absent]
  case null =>
    intro present null
    rw [select, onFloats, degenerate?_of_null present null]
  case refused =>
    rintro present something front value behind e rfl before refused
    have notEmpty : front ++ value :: behind ≠ [] :=
      List.append_ne_nil_of_right_ne_nil front (List.cons_ne_nil value behind)
    rw [select, onFloats, degenerate?_of_present notEmpty present something,
      mapM_fetchFloat_of_error before refused]
    rfl
  case selected =>
    intro notEmpty present something counted
    rcases exists_pairs counted with ⟨pairs, rfl, floats, arePairs⟩
    have notDegenerate := degenerate?_of_present notEmpty present something
    obtain ⟨first, rest, rfl⟩ :=
      List.exists_cons_of_ne_nil (List.map_eq_nil_iff.not.mp notEmpty)
    have zipped :
        ((first :: rest).map Prod.fst).zip ((first :: rest).map Prod.snd) =
          first :: rest := by
      rw [List.zip_map', List.map_id']
    have ordered : ∀ p ∈ first :: rest, ∀ q ∈ first :: rest,
        better p.2 q.2 = true ↔ merit q.2 < merit p.2 :=
      fun p isIn q isIn' => isBetter _ _ (arePairs p isIn).2 (arePairs q isIn').2
    rcases exists_firstBest first rest ordered with ⟨best, isBest, isWinner⟩
    have isMost : ∀ pair ∈ first :: rest, merit pair.2 ≤ merit best.2 :=
      fun _ => isBest.le
    rcases isBest with ⟨before, after, split, less, -⟩
    have isPair : best ∈ first :: rest :=
      split ▸ List.mem_append_right before List.mem_cons_self
    have isFloat := (arePairs best isPair).1
    rcases Value.exists_castNumeric isFloat with
      ⟨number, isNumber, sameFloat, isKind⟩
    refine ⟨before.length, best.1, number,
      firstExtreme_of_firstBest isAtMost arePairs split less isMost, isNumber, ?_,
      sameFloat.trans isFloat.symm, isKind⟩
    rw [select_eq_winner notDegenerate floats zipped, isWinner, isNumber]

end

/--
The greatest and the least of any arguments: nothing and then null decide,
whatever else there is; then the first argument that counts as no float; and
else it is the first argument whose float no other exceeds, or none falls
below, as the number that it is.
-/
theorem answers_max_min (arguments : List Value) :
    Answers (· ≤ ·) arguments (call "max" arguments) ∧
      Answers (· ≥ ·) arguments (call "min" arguments) := by
  constructor
  · have isBetter (x y : Float) (isNumber : x.isNaN = false)
        (isNumber' : y.isNaN = false) :
        decide (y < x) = true ↔ rank y < rank x :=
      decide_eq_true_iff.trans (lt_iff_rank_lt isNumber' isNumber)
    exact answers_select isBetter (fun x y => le_iff_rank_le) arguments
  · have isBetter (x y : Float) (isNumber : x.isNaN = false)
        (isNumber' : y.isNaN = false) :
        decide (x < y) = true ↔ -rank y < -rank x := by
      rw [decide_eq_true_iff, lt_iff_rank_lt isNumber isNumber', neg_lt_neg_iff]
    have isAtMost (x y : Float) (isNumber : x.isNaN = false)
        (isNumber' : y.isNaN = false) :
        x ≥ y ↔ -rank x ≤ -rank y := by
      rw [ge_iff_le, le_iff_rank_le isNumber' isNumber, neg_le_neg_iff]
    exact answers_select isBetter isAtMost arguments

/-- Of equals of all kinds, the first one is returned, and as a number. -/
example :
    call "max" [.bool true, .str " 2", .float 2, .int 2] = .ok (.int 2) ∧
      call "min" [.float 1, .bool true, .int 2] = .ok (.float 1) ∧
        call "max" [.str "x", .null, .absent] = .ok .absent := by
  decide +kernel

end Builtin

end Formula
