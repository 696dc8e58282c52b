import Formula.Proofs.Source.Reader
import Formula.Proofs.Text.Classes
import Formula.Proofs.Token.Steps

/-!
# Lexemes

What the scanner makes of the front of a text, for each kind of token that a
printed expression is made of, other than numbers.  A word ends where something
stands apart from it, so its lemma asks for that; the other tokens end by
themselves.
-/

namespace Formula

namespace Text

/-- Nothing is in front that could go on with a word or a number. -/
def Apart (rest : List Char) : Prop :=
  ∀ c, rest[0]? = some c → isNameNext c = false ∧ c ≠ '.'

theorem apart_nil : Apart [] := by
  intro c impossible
  cases impossible

theorem apart_cons
    {c : Char}
    (rest : List Char)
    (notName : isNameNext c = false)
    (notPoint : c ≠ '.') :
    Apart (c :: rest) := by
  intro d first
  obtain rfl := Option.some.inj first
  exact ⟨notName, notPoint⟩

/-- What stands apart fails every test that only parts of words and points pass. -/
theorem Apart.any_eq_false
    {rest : List Char}
    (apart : Apart rest)
    {p : Char → Bool}
    (part : ∀ c, p c → isNameNext c ∨ c = '.') :
    rest[0]?.any p = false := by
  cases first : rest[0]? with
  | none => rfl
  | some c =>
      rcases apart c first with ⟨notName, notPoint⟩
      rw [Option.any_some, ← Bool.not_eq_true]
      intro holds
      rcases part c holds with inName | isPoint
      · simp [notName] at inName
      · exact notPoint isPoint

end Text

namespace Scanned

open Text Number

variable {flags : Flags} {past rest : List Char}

/-- The first character of a lexeme decides what kind of token it is. -/
theorem lex_cons (c : Char) :
    lex flags (⟨past, c :: rest⟩ : Reader) =
      if c = '\'' ∨ c = '"' then string c ⟨c :: past, rest⟩
      else if c = ':' then colon ⟨c :: past, rest⟩
      else if c = '#' then color ⟨c :: past, rest⟩
      else if c = '+' ∨ c = '-' then sign flags c ⟨c :: past, rest⟩
      else if isDecimal c then number c ⟨c :: past, rest⟩
      else if isNameFirst c then word flags c ⟨c :: past, rest⟩
      else symbol c ⟨c :: past, rest⟩ :=
  rfl

/-- Behind the last character there is nothing but the end. -/
theorem lex_nil (past : List Char) :
    lex flags (⟨past, []⟩ : Reader) =
      { outcome := .ok .endOfInput, source := ⟨past, []⟩ } :=
  rfl

/-! ## Names and words -/

/-- A colon in front of a name makes it an identifier. -/
theorem lex_identifier
    {first : Char}
    {run : List Char}
    (starts : isNameFirst first)
    (belongs : ∀ c ∈ run, isNameNext c)
    (apart : Apart rest) :
    lex flags (⟨past, ':' :: first :: run ++ rest⟩ : Reader) =
      { outcome := .ok .identifier
        text := first :: run
        source := ⟨(':' :: first :: run).reverse ++ past, rest⟩ } := by
  have inName : ∀ c ∈ first :: run, isNameNext c := by
    intro c isMember
    rcases List.mem_cons.mp isMember with rfl | later
    · exact isNameNext_of_isNameFirst starts
    · exact belongs c later
  have ends : rest[0]?.any isNameNext = false := apart.any_eq_false fun _ => Or.inl
  have read := Reader.readWhile_append (':' :: past) rest inName ends
  have sees :
      CharSource.sees isNameFirst (⟨':' :: past, first :: run ++ rest⟩ : Reader) =
        (true, ⟨':' :: past, first :: run ++ rest⟩) := by
    simp [starts]
  rw [List.cons_append, lex_cons, if_neg (by decide), if_pos rfl, colon, sees]
  dsimp only
  rw [read]
  simp

/-- A colon in front of anything else is a token by itself. -/
theorem lex_colon
    (apart : rest[0]?.any isNameFirst = false) :
    lex flags (⟨past, ':' :: rest⟩ : Reader) =
      { outcome := .ok .colon, text := [':'], source := ⟨':' :: past, rest⟩ } := by
  rw [lex_cons, if_neg (by decide), if_pos rfl, colon, Reader.sees_eq, apart]
  rfl

/-- What starts like a name is a word. -/
theorem lex_word
    {c : Char}
    (starts : isNameFirst c) :
    lex flags (⟨past, c :: rest⟩ : Reader) = word flags c ⟨c :: past, rest⟩ := by
  rw [lex_cons, if_neg, if_neg, if_neg, if_neg, if_neg, if_pos starts]
  case hnc =>
      exact fun digit => absurd starts (by simp [isNameFirst_of_isDecimal digit])
  case hnc => rintro (rfl | rfl) <;> exact absurd starts (by decide)
  case hnc => rintro rfl; exact absurd starts (by decide)
  case hnc => rintro rfl; exact absurd starts (by decide)
  case hnc => rintro (rfl | rfl) <;> exact absurd starts (by decide)

/-- A reserved word is a token of the kind that it is reserved for. -/
theorem lex_keyword
    {first : Char}
    {run : List Char}
    {kind : TokenKind}
    (reserved : TokenKind.ofWord? (String.ofList (first :: run)) = some kind)
    (notPlain : flags.plainWords = false)
    (starts : isNameFirst first)
    (belongs : ∀ c ∈ run, isNameNext c)
    (apart : Apart rest) :
    lex flags (⟨past, first :: run ++ rest⟩ : Reader) =
      { outcome := .ok kind
        text := first :: run
        source := ⟨(first :: run).reverse ++ past, rest⟩ } := by
  have ends : rest[0]?.any isNameNext = false := apart.any_eq_false fun _ => Or.inl
  have read := Reader.readWhile_append (first :: past) rest belongs ends
  rw [List.cons_append, lex_word starts, word, read]
  simp only [notPlain, reserved]
  simp

/-! ## Strings -/

/-- A character is written with a backslash in front of a mark for it, or as
itself. -/
theorem escape_cases (c : Char) :
    (∃ mark, escape c = ['\\', mark] ∧ mark ≠ 'u') ∨
      (escape c = [c] ∧ c ≠ '\'' ∧ c ≠ '\\') := by
  rw [escape.eq_def]
  split
  case h_7 notBackslash notQuote _ _ _ _ =>
      exact Or.inr ⟨rfl, notQuote, notBackslash⟩
  all_goals exact Or.inl ⟨_, rfl, by decide⟩

/-- The escapes of a text, behind each other, are read as the text. -/
theorem stringBody_flatMap_escape (text : List Char) :
    stringBody '\'' (⟨past, text.flatMap escape ++ '\'' :: rest⟩ : Reader) =
      (none, text, ⟨'\'' :: ((text.flatMap escape).reverse ++ past), rest⟩) := by
  induction text generalizing past with
  | nil => exact stringBody_close rfl
  | cons c text ih =>
      rw [List.flatMap_cons]
      rcases escape_cases c with
        ⟨mark, written, notCode⟩ | ⟨written, notQuote, notBackslash⟩
      · have meant : escaped
            (⟨'\\' :: past, mark :: (text.flatMap escape ++ '\'' :: rest)⟩ :
              Reader) =
                (.ok c, ⟨mark :: '\\' :: past,
                  text.flatMap escape ++ '\'' :: rest⟩) := by
          rw [escaped_of_ne rfl notCode, unescape?_escape written]
        rw [written]
        refine (stringBody_escape rfl (by decide) meant).trans ?_
        simp [ih]
      · rw [written]
        refine (stringBody_plain rfl notQuote notBackslash).trans ?_
        simp [ih]

theorem toList_literal_append (text : String) :
    (Text.literal text).toList ++ rest =
      '\'' :: (text.toList.flatMap escape ++ '\'' :: rest) := by
  simp [Text.literal]

/-- A text in quotes is a string. -/
theorem lex_literal (text : String) :
    lex flags (⟨past, (Text.literal text).toList ++ rest⟩ : Reader) =
      { outcome := .ok .string
        text := text.toList
        source := ⟨(Text.literal text).toList.reverse ++ past, rest⟩ } := by
  rw [toList_literal_append, lex_cons, if_pos (Or.inl rfl), string,
    stringBody_flatMap_escape]
  simp [Text.literal]

end Scanned

end Formula
