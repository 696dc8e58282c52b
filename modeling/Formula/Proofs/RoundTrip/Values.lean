import Formula.CommandLine.Session
import Formula.Proofs.Grammar.Lists
import Formula.Proofs.Grammar.Operands
import Formula.Proofs.Parse.Interchange
import Formula.Proofs.Token.Numbers

/-!
# Printed values

The text of a value is a literal of the expression language.  So what a list of
expressions is evaluated to can be printed, and is read back from there.
-/

namespace Formula

open Text Number

/--
A value that has a literal.  The only ones without are NaN and the infinite
floats; the text of any other float is expected to be read as the same float.
-/
structure Value.Readable (value : Value) : Prop where
  finite : ∀ x, value = .float x → x.isFinite
  restored : ∀ x, value = .float x → floatOfChars? (floatText x).toList = some x

/-- Only floats can fail to have a literal. -/
theorem Value.readable_of_ne_float
    {value : Value}
    (notFloat : ∀ x, value ≠ .float x) :
    value.Readable :=
  ⟨fun x same => absurd same (notFloat x), fun x same => absurd same (notFloat x)⟩

theorem Value.readable_float
    {x : Float}
    (finite : x.isFinite)
    (restored : floatOfChars? (floatText x).toList = some x) :
    (Value.float x).Readable := by
  constructor
  · rintro _ ⟨⟩
    exact finite
  · rintro _ ⟨⟩
    exact restored

/-- A spelling starts with a digit, or with a sign in front of it. -/
theorem Number.Spelling.starts (spelling : Spelling) :
    ∃ c chars, spelling.chars = c :: chars ∧ isBlank c = false := by
  rcases spelling with
    ⟨sign, whole, places, power, signed, digits, hasPlaces, hasPower⟩
  cases signed with
  | plus => exact ⟨'+', _, rfl, rfl⟩
  | minus => exact ⟨'-', _, rfl, rfl⟩
  | none =>
      rcases whole with _ | ⟨c, run⟩
      · exact absurd rfl digits.nonempty
      · have digit : isDecimal c := digits.isDecimal c List.mem_cons_self
        exact ⟨c, _, rfl, isBlank_of_isNameNext (isNameNext_of_isDecimal digit)⟩

namespace Grammar

variable {rest : List Char}

/-- A spelling is a token, where a sign may belong to it. -/
theorem Lexeme.spelling
    (spelling : Spelling)
    {kind : TokenKind}
    {numeral : Numeral}
    (isKind : kind ≠ .error)
    (scanned : ∀ s : Reader,
      (if spelling.places.isEmpty && spelling.power.isEmpty then
          Scanned.wholeNumber spelling.chars s
        else
          Scanned.floatNumber spelling.chars s) =
        { outcome := .ok kind, text := spelling.chars, literal := some numeral,
          source := s })
    (apart : Apart rest) :
    Lexeme .operand spelling.chars rest
      (fun token => token.kind = kind ∧ token.literal = some numeral) := by
  have starts : (spelling.chars ++ rest)[0]?.any isBlank = false := by
    rcases spelling.starts with ⟨c, chars, same, notBlank⟩
    simp [same, notBlank]
  exact .of_lex starts (fun past => 
      (Scanned.lex_spelling (.of_apart apart) (.inr rfl)).trans (scanned _))
    isKind fun _ => ⟨rfl, rfl⟩

theorem Lexeme.int
    (n : Int64)
    (apart : Apart rest) :
    Lexeme .operand (toString n.toInt).toList rest (Literal · (.int n)) := by
  rcases Decimal.exists_spelling_of_int n.toInt with
    ⟨spelling, same, noPlaces, noPower, reads⟩
  have held : word? n.toInt = some n := word?_eq_some_iff.mpr rfl
  have lexeme : Lexeme .operand spelling.chars rest
      (fun token => token.kind = .integer ∧ token.literal = some (.int n)) := by
    refine .spelling spelling nofun (fun s => ?_) apart
    simp [noPlaces, noPower, Scanned.wholeNumber, reads, held]
  rw [← same]
  exact lexeme.imp fun _ meant => .int (Or.inl meant.1) meant.2

theorem Lexeme.float
    {x : Float}
    (finite : x.isFinite)
    (reads : floatOfChars? (floatText x).toList = some x)
    (apart : Apart rest) :
    Lexeme .operand (floatText x).toList rest (Literal · (.float x)) := by
  rcases exists_spelling_of_float finite reads with ⟨spelling, same, notWhole⟩
  have isFloat : ¬ (spelling.places.isEmpty && spelling.power.isEmpty) = true := by
    rw [Bool.and_eq_true, List.isEmpty_iff, List.isEmpty_iff]
    rintro ⟨noPlaces, noPower⟩
    exact notWhole.elim (· noPlaces) (· noPower)
  have lexeme : Lexeme .operand spelling.chars rest
      (fun token => token.kind = .float ∧ token.literal = some (.float x)) := by
    refine .spelling spelling nofun (fun s => ?_) apart
    rw [if_neg isFloat, Scanned.floatNumber, same, reads]
  rw [← same]
  exact lexeme.imp fun _ meant => .float (Or.inr meant.1) meant.2

theorem Lexeme.string
    (text : String) :
    Lexeme .operand (Text.literal text).toList rest (Literal · (.str text)) := by
  refine .of_lex ?_ (fun _ => Scanned.lex_literal text) nofun fun place => ?_
  · have notBlank : isBlank '\'' = false := rfl
    simp [Text.literal, notBlank]
  · rw [String.ofList_toList]
    exact .string rfl

/-- The text of a value is a literal that gives the value. -/
theorem Lexeme.value
    {value : Value}
    (readable : value.Readable)
    (apart : Apart rest) :
    Lexeme .operand value.quoted.toList rest (Literal · value) := by
  cases value with
  | absent =>
      have reserved : TokenKind.ofWord? "undef" = some .constAbsent := rfl
      exact (Lexeme.keyword reserved apart).imp fun _ => .absent
  | null =>
      have reserved : TokenKind.ofWord? "null" = some .constNull := rfl
      exact (Lexeme.keyword reserved apart).imp fun _ => .null
  | int n => exact .int n apart
  | float x => exact .float (readable.finite x rfl) (readable.restored x rfl) apart
  | str text => exact .string text
  | bool b =>
      cases b with
      | true =>
          have reserved : TokenKind.ofWord? "true" = some .constTrue := rfl
          exact (Lexeme.keyword reserved apart).imp fun _ => .true
      | false =>
          have reserved : TokenKind.ofWord? "false" = some .constFalse := rfl
          exact (Lexeme.keyword reserved apart).imp fun _ => .false

/-! ## Lists -/

/-- The further values of a list, each behind a semicolon. -/
def printedRest (values : List Value) : List Char :=
  values.flatMap fun value => ';' :: ' ' :: value.quoted.toList

theorem toList_intercalate_quoted
    (value : Value)
    (values : List Value) :
    ("; ".intercalate ((value :: values).map Value.quoted)).toList =
      value.quoted.toList ++ printedRest values := by
  induction values generalizing value with
  | nil => simp [printedRest]
  | cons next values ih =>
      have shorter := ih next
      rw [List.map_cons, String.toList_intercalate] at shorter ⊢
      simp only [List.map_cons, List.intercalate_cons_cons] at shorter ⊢
      rw [shorter]
      simp [printedRest]

theorem apart_printedRest (values : List Value) : Apart (printedRest values) := by
  cases values with
  | nil => exact apart_nil
  | cons value values => exact apart_cons _ rfl (by decide)

theorem spellsRest_printedRest
    {values : List Value}
    (readable : ∀ value ∈ values, value.Readable)
    (past : List Char) :
    SpellsRest (⟨past, printedRest values⟩ : Reader) (values.map .literal) := by
  induction values generalizing past with
  | nil =>
      rcases Lexeme.endOfInput past with ⟨token, terminal, isEnd⟩
      exact .done terminal isEnd
  | cons value values ih =>
      have spans : Spans .ternary (' ' :: value.quoted.toList) (printedRest values)
          (.literal value) :=
        (Operand.literal (.value (readable value List.mem_cons_self)
          (apart_printedRest values))).ternary.of_blank nofun rfl
      have others :=
        ih fun value isMember => readable value (List.mem_cons_of_mem _ isMember)
      rcases Lexeme.mark .semicolon past with ⟨semicolon, terminal, isSemicolon⟩
      exact .more terminal isSemicolon (spans _) (others _)

end Grammar

namespace Expression

variable {values : List Value}

theorem parse_of_readable
    (nonempty : values ≠ [])
    (readable : ∀ value ∈ values, value.Readable) :
    parse ("; ".intercalate (values.map Value.quoted)) true =
      .ok ⟨values.map .literal⟩ := by
  cases values with
  | nil => exact absurd rfl nonempty
  | cons value values =>
      have first :
          Grammar.Spans .ternary value.quoted.toList (Grammar.printedRest values)
            (.literal value) :=
          (Grammar.Operand.literal
            (.value (readable value List.mem_cons_self)
              (Grammar.apart_printedRest values))).ternary
      have others := Grammar.spellsRest_printedRest
        fun value isMember => readable value (List.mem_cons_of_mem _ isMember)
      have spells := Grammar.SpellsList.list (first []) (others _)
      rw [← Grammar.toList_intercalate_quoted] at spells
      rw [parse, parseSource, Parse.expressions_text, Reader.ofList,
        (Grammar.expressions_eq_ok_iff _ _).mpr spells]
      rfl

theorem evaluateAll_literals (values : List Value) :
    evaluateAll ⟨values.map .literal⟩ = pure values := by
  rw [evaluateAll]
  induction values with
  | nil => rfl
  | cons value values ih =>
      rw [List.map_cons, Expr.evaluateArguments, Expr.evaluate, ih]
      rfl

/-- The line that shows the values of a list is read as the list of these values,
whatever the host. -/
theorem evaluateAll_parse_quoted
    (nonempty : values ≠ [])
    (readable : ∀ value ∈ values, value.Readable) :
    parse ("; ".intercalate (values.map Value.quoted)) true =
        .ok ⟨values.map .literal⟩ ∧
      ∀ resolver, (evaluateAll ⟨values.map .literal⟩).run resolver =
        .ok values := by
  refine ⟨parse_of_readable nonempty readable, fun resolver => ?_⟩
  rw [evaluateAll_literals]
  rfl

theorem evaluateAll_parse_quoted_of_each_kind :
    ∃ values : List Value,
      values =
        [.absent, .null, .int Int64.minValue, .float (-0.0), .float 1.5,
          .float 5e-324,
        .str "a'b; \\\n", .bool true] ∧
      values ≠ [] ∧ (∀ value ∈ values, value.Readable) ∧
      parse ("; ".intercalate (values.map Value.quoted)) true =
          .ok ⟨values.map .literal⟩ ∧
      ∀ resolver, (evaluateAll ⟨values.map .literal⟩).run resolver =
        .ok values := by
  refine ⟨_, rfl, ?_⟩
  generalize isList :
    [Value.absent, .null, .int Int64.minValue, .float (-0.0), .float 1.5,
    .float 5e-324, .str "a'b; \\\n", .bool true] = values
  have nonempty : values ≠ [] := isList ▸ List.cons_ne_nil _ _
  have readable : ∀ value ∈ values, value.Readable := by
    rw [← isList]
    simp only [List.forall_mem_cons]
    exact ⟨Value.readable_of_ne_float nofun, Value.readable_of_ne_float nofun,
      Value.readable_of_ne_float nofun,
      Value.readable_float (by decide +kernel) (by decide +kernel),
      Value.readable_float (by decide +kernel) (by decide +kernel),
      Value.readable_float (by decide +kernel) (by decide +kernel),
      Value.readable_of_ne_float nofun, Value.readable_of_ne_float nofun, nofun⟩
  exact ⟨nonempty, readable, evaluateAll_parse_quoted nonempty readable⟩

end Expression

end Formula
