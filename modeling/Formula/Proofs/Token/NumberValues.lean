import Formula.Proofs.Token.Numbers
import Formula.Proofs.Token.Reading

/-!
# Numbers are read exactly

Wherever a tokenizer reads on in front of a number, it takes the longest one there
is, and serves it with what it means.  A whole number that no word holds is
malformed.
-/

namespace Formula

open Text Number

namespace Tokenizer

/-- The current token is a number with its value, or one that is too large. -/
def Carries
    (tokenizer : Tokenizer Cursor)
    (lexeme : List Char) :
    Option Numeral → Prop
  | some (.int n) =>
    tokenizer.token.kind = .integer ∧ tokenizer.token.literal = some (.int n)
  | some (.float x) =>
    tokenizer.token.kind = .float ∧ tokenizer.token.literal = some (.float x)
  | none =>
    tokenizer.token.kind = .error ∧ tokenizer.token.literal = none ∧
      ∃ fault, tokenizer.failure = some fault ∧
        fault.cause = .integerOverflow (String.ofList lexeme)

theorem Found.carries
    {lexeme : List Char}
    {numeral : Option Numeral}
    {s : Reader}
    {tokenizer : Tokenizer Cursor}
    (isFound : Found (Scanned.ofNumber lexeme numeral s) tokenizer) :
    tokenizer.Carries lexeme numeral := by
  rcases numeral with _ | n | x
  · exact ⟨isFound.kind_eq, isFound.literal_eq, isFound.failure _ rfl⟩
  · exact ⟨isFound.kind_eq, isFound.literal_eq⟩
  · exact ⟨isFound.kind_eq, isFound.literal_eq⟩

end Tokenizer

theorem Scanned.ofNumber_text
    (lexeme : List Char)
    (numeral : Option Numeral)
    (s : Reader) :
    (ofNumber lexeme numeral s).text = lexeme ∧
      (ofNumber lexeme numeral s).source = s := by
  rcases numeral with _ | n | x <;> exact ⟨rfl, rfl⟩

/-- Wherever a tokenizer reads on in front of a number, its next token is the
longest number there is, and it stands right behind it.  The token carries what
this number means, which is always something, or that it is too large. -/
theorem Step.numbers_exact
    (text : String)
    (steps : List Step)
    {flags : Flags}
    (reads : (state steps (.ofSource (Cursor.ofString text))).ReadsOn flags)
    (starts : Scanned.StartsNumber flags
      (state steps (.ofSource (Cursor.ofString text))).ahead) :
    let start := state steps (.ofSource (Cursor.ofString text))
    let found := start.get flags
    ∃ lexeme behind,
      LongestPrefix NumberText start.ahead lexeme behind ∧
        found.token.text = String.ofList lexeme ∧
          found.source.rest = String.ofList behind ∧
            (∃ numeral, Means lexeme numeral) ∧
              ∀ numeral, Means lexeme numeral → found.Carries lexeme numeral := by
  intro start found
  rcases found_get text steps reads with ⟨past, isFound⟩
  rcases starts.exists_longest with ⟨lexeme, behind, longest⟩
  have isFound' : ∀ numeral, Means lexeme numeral →
      Tokenizer.Found
        (Scanned.ofNumber lexeme numeral ⟨lexeme.reverse ++ past, behind⟩)
        found := by
    intro numeral means
    rw [← Scanned.lex_of_means starts longest means past]
    exact isFound
  rcases longest.isMember.exists_means with ⟨numeral, means⟩
  have isText := (isFound' numeral means).text_eq
  have isRest := (isFound' numeral means).rest_eq
  rw [(Scanned.ofNumber_text _ _ _).1] at isText
  rw [(Scanned.ofNumber_text _ _ _).2] at isRest
  exact ⟨lexeme, behind, longest, isText, isRest, ⟨numeral, means⟩,
    fun numeral means => (isFound' numeral means).carries⟩

/-- The least word, in front of a letter that starts no exponent. -/
theorem Step.numbers_exact_least :
    let start := state [] (.ofSource (Cursor.ofString " -9223372036854775808e+x"))
    let found := start.get {}
    start.ReadsOn {} ∧ Scanned.StartsNumber {} start.ahead ∧
      found.token.text = "-9223372036854775808" ∧ found.token.kind = .integer ∧
        found.token.literal = some (.int Int64.minValue) ∧
        found.source.rest = "e+x" := by
  have reads :=
    Tokenizer.readsOn_ofSource {} (Cursor.ofString " -9223372036854775808e+x")
  have ahead := Tokenizer.ahead_ofString " -9223372036854775808e+x"
  have starts : Scanned.StartsNumber {}
      (Tokenizer.ofSource (Cursor.ofString " -9223372036854775808e+x")).ahead := by
    rw [ahead]
    exact ⟨['-'], '9', "223372036854775808e+x".toList, .minus, .inr rfl, rfl,
      by decide⟩
  have isText :
      ((Tokenizer.ofSource (Cursor.ofString " -9223372036854775808e+x")).get
        {}).token.text =
          "-9223372036854775808" := by
    have alike :=
    Tokenizer.alike_ofSource (Cursor.models_ofString " -9223372036854775808e+x")
    rw [(alike.get (Cursor.rewinding _) {}).token_eq]
    decide +kernel
  rcases numbers_exact _ [] reads starts with
    ⟨lexeme, behind, longest, isText', isRest, _, carries⟩
  obtain rfl : lexeme = ['-'] ++ "9223372036854775808".toList := by
    rw [← String.ofList_inj, ← isText']
    exact isText
  have digits : Digits "9223372036854775808".toList := ⟨by decide, by decide⟩
  have means :
      Means (['-'] ++ "9223372036854775808".toList) (some (.int Int64.minValue)) :=
    .whole .minus digits (by decide +kernel)
  have isBehind : behind = "e+x".toList := by
    exact List.append_cancel_left
      (longest.text_eq.symm.trans (ahead.trans (by decide)))
  refine ⟨reads, starts, isText, (carries _ means).1, (carries _ means).2,
    isRest.trans ?_⟩
  rw [isBehind, String.ofList_toList]

end Formula
