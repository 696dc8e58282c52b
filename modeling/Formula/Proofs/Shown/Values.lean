import Formula.Proofs.Expr.Shapes
import Formula.Proofs.Number.Spelling
import Formula.Proofs.Token.Lexemes

/-!
# Texts of values in front of other text

A shown tree has marks between its parts, and its words have none in them: names,
symbols and the texts of values that are no strings.  So a word ends where the next
mark stands, and a string ends at its quote.  Either way the text of a value can be
told from what follows it, and the value from its text.
-/

namespace Formula

open Text Number

namespace Shown

/-- The characters of a text are checked one by one. -/
instance decidableForallMem
    (text : List Char)
    (p : Char → Prop)
    [DecidablePred p] :
    Decidable (∀ c ∈ text, p c) :=
  List.decidableBAll p text

/-- What stands between the words of a shown tree.  No shown tree breaks a line. -/
def marks : List Char :=
  [' ', '(', ')', '[', ']', ';', ':', '\'', '\n', '\r']

/-- A run of characters that holds no mark. -/
structure Word (run : List Char) : Prop where
  nonempty : run ≠ []
  unmarked : ∀ c ∈ run, c ∉ marks

/-- No word goes on in front of the text. -/
def Cut (rest : List Char) : Prop :=
  ∀ c ∈ rest.head?, c ∈ marks

theorem cut_cons
    {c : Char}
    (isMark : c ∈ marks)
    (rest : List Char) :
    Cut (c :: rest) := by
  rintro _ ⟨⟩
  exact isMark

/-- A text starts with the longest run without a mark. -/
theorem Word.takeWhile_append
    {run rest : List Char}
    (word : Word run)
    (cut : Cut rest) :
    (run ++ rest).takeWhile (· ∉ marks) = run := by
  have ends : rest.takeWhile (· ∉ marks) = [] := by
    cases rest with
    | nil => rfl
    | cons c rest =>
        have isMark : c ∈ marks := cut c rfl
        rw [List.takeWhile_cons_of_neg]
        simpa using isMark
  rw [List.takeWhile_append_of_pos fun c isMember =>
    decide_eq_true (word.unmarked c isMember),
    ends, List.append_nil]

/-- Words in front of marks can be told apart. -/
theorem Word.append_inj
    {run run' rest rest' : List Char}
    (word : Word run)
    (word' : Word run')
    (cut : Cut rest)
    (cut' : Cut rest')
    (same : run ++ rest = run' ++ rest') :
    run = run' ∧ rest = rest' := by
  have sameRun : run = run' := by
    rw [← word.takeWhile_append cut, same, word'.takeWhile_append cut']
  subst sameRun
  exact ⟨rfl, List.append_cancel_left same⟩

/-- A text that starts with a mark does not start with a word. -/
theorem Word.append_ne_cons
    {run rest rest' : List Char}
    {c : Char}
    (word : Word run)
    (isMark : c ∈ marks) :
    run ++ rest ≠ c :: rest' := by
  intro same
  cases run with
  | nil => exact word.nonempty rfl
  | cons d run =>
      obtain rfl : d = c := (List.cons.inj same).1
      exact word.unmarked d List.mem_cons_self isMark

/-! ## Names and symbols -/

theorem not_mem_marks_of_isNameNext
    {c : Char}
    (inName : isNameNext c) :
    c ∉ marks := by
  intro isMark
  have none : ∀ mark ∈ marks, isNameNext mark = false := by decide
  rw [none c isMark] at inName
  cases inName

theorem word_of_isName
    {name : String}
    (isName : IsName name) :
    Word name.toList := by
  rcases isName with ⟨first, run, chars, isFirst, isNext⟩
  rw [chars]
  constructor
  case nonempty => exact List.cons_ne_nil first run
  case unmarked =>
    intro c isMember
    apply not_mem_marks_of_isNameNext
    rcases List.mem_cons.mp isMember with rfl | inRun
    · exact isNameNext_of_isNameFirst isFirst
    · exact isNext c inRun

theorem word_symbol (op : Op) : Word op.symbol.toList := by
  constructor
  case nonempty => cases op <;> decide
  case unmarked => cases op <;> decide

/-! ## Characters of numbers -/

/-- What the text of a float can hold besides digits. -/
def floatSigns : List Char :=
  ['-', '+', '.', 'e', 'i', 'n', 'f', 'a']

/-- A run of digits and of signs of floats. -/
def Numeric (run : List Char) : Prop :=
  ∀ c ∈ run, isDecimal c ∨ c ∈ floatSigns

instance (run : List Char) : Decidable (Numeric run) :=
  inferInstanceAs (Decidable (∀ c ∈ run, _))

namespace Numeric

variable {run run' : List Char}

theorem sign
    {c : Char}
    (isSign : c ∈ floatSigns)
    (numeric : Numeric run) :
    Numeric (c :: run) :=
  List.forall_mem_cons.mpr ⟨.inr isSign, numeric⟩

theorem append
    (numeric : Numeric run)
    (numeric' : Numeric run') :
    Numeric (run ++ run') :=
  List.forall_mem_append.mpr ⟨numeric, numeric'⟩

theorem mono
    (numeric : Numeric run)
    (subset : run' ⊆ run) :
    Numeric run' :=
  fun c isMember => numeric c (subset isMember)

theorem of_digits (digits : Digits run) : Numeric run :=
  fun c isMember => .inl (digits.isDecimal c isMember)

theorem zeros (count : Nat) : Numeric (List.replicate count '0') := by
  intro c isMember
  rw [List.eq_of_mem_replicate isMember]
  exact .inl (by decide)

end Numeric

/-- The text of an integer is made of digits behind a sign. -/
theorem mem_intText
    {n : Int}
    {c : Char}
    (isMember : c ∈ (toString n).toList) :
    isDecimal c ∨ c = '+' ∨ c = '-' := by
  rcases Decimal.exists_spelling_of_int n with
    ⟨spelling, same, noPlaces, noPower, _⟩
  rw [← same, Spelling.chars, noPlaces, noPower, List.append_nil,
    List.append_nil] at isMember
  rcases List.mem_append.mp isMember with inSign | inWhole
  · exact .inr (spelling.signed.mem inSign)
  · exact .inl (spelling.digits.isDecimal c inWhole)

theorem numeric_intText (n : Int) : Numeric (toString n).toList := by
  intro c isMember
  rcases mem_intText isMember with digit | rfl | rfl
  · exact .inl digit
  · exact .inr (by decide)
  · exact .inr (by decide)

variable {digits : List Char} {leading : Int}

theorem numeric_plain (numeric : Numeric digits) :
    Numeric (valueLayout.plain digits leading) := by
  have zero : Numeric ['0'] := Numeric.zeros 1
  rw [Layout.plain]
  split
  · exact zero.append (.sign (by decide) ((Numeric.zeros _).append numeric))
  · apply Numeric.append
    · exact (numeric.mono (List.take_subset _ _)).append (Numeric.zeros _)
    · apply Numeric.sign (by decide)
      split
      · exact zero
      · exact numeric.mono (List.drop_subset _ _)

theorem numeric_scientific (numeric : Numeric digits) :
    Numeric (valueLayout.scientific digits leading) := by
  rw [Layout.scientific]
  apply Numeric.append
  · apply Numeric.append
    · exact numeric.mono (List.take_subset _ _)
    · split
      · rintro _ ⟨⟩
      · exact .sign (by decide) (numeric.mono (List.drop_subset _ _))
  · exact .sign (by decide) (numeric_intText leading)

theorem numeric_magnitudeText
    (mantissa : Nat)
    (exponent : Int) :
    Numeric (magnitudeText mantissa exponent) := by
  rw [magnitudeText]
  split
  · exact (Numeric.zeros 1).append (.sign (by decide) (Numeric.zeros 1))
  · have significant (n : Nat) :
        Numeric ((Nat.toDigits 10 n).reverse.dropWhile (· == '0')).reverse := by
      apply (Numeric.of_digits (Decimal.digits_toDigits n)).mono
      intro c isMember
      have kept := (List.dropWhile_suffix _).subset (List.mem_reverse.mp isMember)
      exact List.mem_reverse.mp kept
    simp only [Layout.positive]
    split
    · exact numeric_plain (significant _)
    · exact numeric_scientific (significant _)

theorem numeric_floatText (x : Float) : Numeric (floatText x).toList := by
  rw [floatText]
  split
  case h_1 => decide
  case h_2 negative _ => cases negative <;> decide
  case h_3 negative mantissa exponent _ =>
    have numeric := numeric_magnitudeText mantissa exponent
    rw [String.toList_ofList]
    split
    · exact .sign (by decide) numeric
    · exact numeric

/-! ## Texts of values -/

/-- What tells the text of a float from that of an integer. -/
def isFloatMark (c : Char) : Bool :=
  c = '.' || c = 'e' || c = 'n'

theorem any_isFloatMark_floatText (x : Float) :
    (floatText x).toList.any isFloatMark = true := by
  by_cases finite : x.isFinite
  · apply List.any_eq_true.mpr
    rcases point_or_mark_mem_floatText finite with point | mark
    · exact ⟨'.', point, rfl⟩
    · exact ⟨'e', mark, rfl⟩
  · simp only [Float.isFinite, Float.Model.isFinite] at finite
    rw [floatText, Binary.ofFloat]
    cases unpacked : x.toModel.unpack with
    | notANumber => decide
    | infinity sign => cases sign <;> decide
    | zero sign => exact absurd (by rw [unpacked]; rfl) finite
    | finite sign mantissa exponent => exact absurd (by rw [unpacked]; rfl) finite

theorem any_isFloatMark_intText (n : Int) :
    (toString n).toList.any isFloatMark = false := by
  apply List.any_eq_false.mpr
  intro c isMember isMark
  simp only [isFloatMark, Bool.or_eq_true, decide_eq_true_eq] at isMark
  rcases isMark with (rfl | rfl) | rfl
  · exact absurd (mem_intText isMember) (by decide)
  · exact absurd (mem_intText isMember) (by decide)
  · exact absurd (mem_intText isMember) (by decide)

theorem intText_ne_floatText
    (n : Int)
    (x : Float) :
    toString n ≠ floatText x := by
  intro same
  have mark := any_isFloatMark_floatText x
  rw [← same, any_isFloatMark_intText] at mark
  cases mark

theorem int_eq_of_text_eq
    {n m : Int64}
    (same : toString n.toInt = toString m.toInt) :
    n = m := by
  rcases Decimal.exists_spelling_of_int n.toInt with ⟨spelling, chars, _, _, reads⟩
  rcases Decimal.exists_spelling_of_int m.toInt with
    ⟨spelling', chars', _, _, reads'⟩
  rw [chars, same, ← chars', reads'] at reads
  exact (Int64.toInt_inj.mp (Option.some.inj reads)).symm

/-- The values whose texts are words. -/
def constants : List Value :=
  [.absent, .null, .bool true, .bool false]

theorem constant_or_number
    {v : Value}
    (notString : ∀ s, v ≠ .str s) :
    v ∈ constants ∨ (∃ n, v = .int n) ∨ ∃ x, v = .float x := by
  cases v with
  | absent => exact .inl (by decide)
  | null => exact .inl (by decide)
  | int n => exact .inr (.inl ⟨n, rfl⟩)
  | float x => exact .inr (.inr ⟨x, rfl⟩)
  | str s => exact absurd rfl (notString s)
  | bool b => cases b <;> exact .inl (by decide)

theorem numeric_text
    {v : Value}
    (isNumber : (∃ n, v = .int n) ∨ ∃ x, v = .float x) :
    Numeric v.text.toList := by
  rcases isNumber with ⟨n, rfl⟩ | ⟨x, rfl⟩
  · exact numeric_intText n.toInt
  · exact numeric_floatText x

theorem not_numeric_constant : ∀ v ∈ constants, ¬ Numeric v.text.toList := by
  decide

/-- Values that are no strings have the same text only if they are equal, as
long as this is so for floats. -/
theorem eq_of_text_eq
    {v w : Value}
    (notString : ∀ s, v ≠ .str s)
    (notString' : ∀ s, w ≠ .str s)
    (distinct :
      ∀ x y, v = .float x → w = .float y → floatText x = floatText y → x = y)
    (same : v.text = w.text) :
    v = w := by
  rcases constant_or_number notString with isConstant | isNumber
  · rcases constant_or_number notString' with isConstant' | isNumber'
    · have apart :
          ∀ v ∈ constants, ∀ w ∈ constants, v.text = w.text → v = w := by decide
      exact apart v isConstant w isConstant' same
    · exact absurd (same ▸ numeric_text isNumber')
        (not_numeric_constant v isConstant)
  · rcases constant_or_number notString' with isConstant' | isNumber'
    · exact absurd (same ▸ numeric_text isNumber)
        (not_numeric_constant w isConstant')
    · rcases isNumber with ⟨n, rfl⟩ | ⟨x, rfl⟩
      · rcases isNumber' with ⟨m, rfl⟩ | ⟨y, rfl⟩
        · exact congrArg Value.int (int_eq_of_text_eq same)
        · exact absurd same (intText_ne_floatText n.toInt y)
      · rcases isNumber' with ⟨m, rfl⟩ | ⟨y, rfl⟩
        · exact absurd same.symm (intText_ne_floatText m.toInt x)
        · exact congrArg Value.float (distinct x y rfl rfl same)

theorem Numeric.word
    {run : List Char}
    (numeric : Numeric run)
    (nonempty : run ≠ []) :
    Word run where
  nonempty := nonempty
  unmarked := by
    intro c isMember isMark
    have apart :
        ∀ mark ∈ marks, ¬ (isDecimal mark ∨ mark ∈ floatSigns) := by decide
    exact apart c isMark (numeric c isMember)

theorem word_text
    {v : Value}
    (notString : ∀ s, v ≠ .str s) :
    Word v.text.toList := by
  rcases constant_or_number notString with isConstant | isNumber
  · have words : ∀ v ∈ constants, v.text.toList ≠ [] ∧
        ∀ c ∈ v.text.toList, c ∉ marks := by decide
    exact ⟨(words v isConstant).1, (words v isConstant).2⟩
  · apply (numeric_text isNumber).word
    rcases isNumber with ⟨n, rfl⟩ | ⟨x, rfl⟩
    · rcases Decimal.exists_spelling_of_int n.toInt with ⟨spelling, chars, _⟩
      show (toString n.toInt).toList ≠ []
      rw [← chars]
      apply List.append_ne_nil_of_right_ne_nil
      exact List.append_ne_nil_of_left_ne_nil spelling.digits.nonempty _
    · intro empty
      have mark := any_isFloatMark_floatText x
      rw [show (floatText x).toList = [] from empty] at mark
      cases mark

/-- A string between quotes ends at its quote. -/
theorem literal_append_inj
    {text text' : String}
    {rest rest' : List Char}
    (same :
      (Text.literal text).toList ++ rest = (Text.literal text').toList ++ rest') :
    text = text' ∧ rest = rest' := by
  rw [Scanned.toList_literal_append, Scanned.toList_literal_append] at same
  have body (text : String) (rest : List Char) :
      Scanned.stringBody '\''
        (⟨[], text.toList.flatMap escape ++ '\'' :: rest⟩ : Reader) = _ :=
    Scanned.stringBody_flatMap_escape text.toList
  have sameBody := body text rest
  rw [(List.cons.inj same).2, body text' rest'] at sameBody
  simp only [Prod.mk.injEq, Reader.mk.injEq, true_and] at sameBody
  exact ⟨(String.toList_inj.mp sameBody.1).symm, sameBody.2.2.symm⟩

/-- A value is a string, or it is written without quotes. -/
theorem quoted_cases (v : Value) :
    (∃ s, v = .str s) ∨
      (∀ s, v ≠ .str s) ∧ v.quoted = v.text ∧ Word v.text.toList := by
  by_cases isString : ∃ s, v = .str s
  · exact .inl isString
  · have notString : ∀ s, v ≠ .str s := fun s isStr => isString ⟨s, isStr⟩
    exact .inr ⟨notString, Value.quoted_of_ne_str notString, word_text notString⟩

/-- The text of a value can be told from what follows it, and the value from its
text. -/
theorem quoted_append_inj
    {v w : Value}
    {rest rest' : List Char}
    (distinct :
      ∀ x y, v = .float x → w = .float y → floatText x = floatText y → x = y)
    (cut : Cut rest)
    (cut' : Cut rest')
    (same : v.quoted.toList ++ rest = w.quoted.toList ++ rest') :
    v = w ∧ rest = rest' := by
  rcases quoted_cases v with ⟨s, rfl⟩ | ⟨notString, plain, word⟩
  · rcases quoted_cases w with ⟨s', rfl⟩ | ⟨_, plain', word'⟩
    · rcases literal_append_inj same with ⟨rfl, sameRest⟩
      exact ⟨rfl, sameRest⟩
    · rw [plain'] at same
      exact absurd (same.symm.trans (Scanned.toList_literal_append s))
        (word'.append_ne_cons (by decide))
  · rw [plain] at same
    rcases quoted_cases w with ⟨s', rfl⟩ | ⟨notString', plain', word'⟩
    · exact absurd (same.trans (Scanned.toList_literal_append s'))
        (word.append_ne_cons (by decide))
    · rw [plain'] at same
      rcases word.append_inj word' cut cut' same with ⟨sameText, sameRest⟩
      exact ⟨eq_of_text_eq notString notString' distinct
        (String.toList_inj.mp sameText), sameRest⟩

theorem quoted_ne_nil (v : Value) : v.quoted.toList ≠ [] := by
  rcases quoted_cases v with ⟨s, rfl⟩ | ⟨_, plain, word⟩
  · rw [← List.append_nil (Value.str s).quoted.toList]
    intro empty
    cases (Scanned.toList_literal_append s).symm.trans empty
  · rw [plain]
    exact word.nonempty

/-- A value does not start like a variable, a call or an operator. -/
theorem quoted_append_ne_cons
    {v : Value}
    {c : Char}
    {rest rest' : List Char}
    (isMark : c ∈ marks)
    (notQuote : c ≠ '\'') :
    v.quoted.toList ++ rest ≠ c :: rest' := by
  rcases quoted_cases v with ⟨s, rfl⟩ | ⟨_, plain, word⟩
  · intro same
    have first := same.symm.trans (Scanned.toList_literal_append s)
    exact notQuote (List.cons.inj first).1
  · rw [plain]
    exact word.append_ne_cons isMark

/-! ## Lines -/

/-- The text has no line break in it. -/
def Unbroken (text : List Char) : Prop :=
  ∀ c ∈ text, c ≠ '\n' ∧ c ≠ '\r'

instance (text : List Char) : Decidable (Unbroken text) :=
  inferInstanceAs (Decidable (∀ c ∈ text, _))

theorem Unbroken.append
    {text text' : List Char}
    (unbroken : Unbroken text)
    (unbroken' : Unbroken text') :
    Unbroken (text ++ text') :=
  List.forall_mem_append.mpr ⟨unbroken, unbroken'⟩

theorem Unbroken.cons
    {c : Char}
    {text : List Char}
    (notBreak : c ≠ '\n' ∧ c ≠ '\r')
    (unbroken : Unbroken text) :
    Unbroken (c :: text) :=
  List.forall_mem_cons.mpr ⟨notBreak, unbroken⟩

theorem Word.unbroken
    {run : List Char}
    (word : Word run) :
    Unbroken run := by
  intro c isMember
  constructor
  · rintro rfl
    exact word.unmarked _ isMember (by decide)
  · rintro rfl
    exact word.unmarked _ isMember (by decide)

theorem unbroken_escape (c : Char) : Unbroken (escape c) := by
  rw [escape.eq_def]
  split
  case h_7 notFeed notReturn _ _ =>
    intro d isMember
    rw [List.mem_singleton.mp isMember]
    exact ⟨notFeed, notReturn⟩
  all_goals decide

theorem unbroken_quoted (v : Value) : Unbroken v.quoted.toList := by
  rcases quoted_cases v with ⟨s, rfl⟩ | ⟨_, plain, word⟩
  · have body : Unbroken (s.toList.flatMap escape) := by
      intro c isMember
      rcases List.mem_flatMap.mp isMember with ⟨d, _, inEscape⟩
      exact unbroken_escape d c inEscape
    have closed : Unbroken ('\'' :: (s.toList.flatMap escape ++ ['\''])) :=
      .cons (by decide) (body.append (by decide))
    rw [← List.append_nil (Value.str s).quoted.toList]
    exact (Scanned.toList_literal_append s) ▸ closed
  · rw [plain]
    exact word.unbroken

end Shown

end Formula
