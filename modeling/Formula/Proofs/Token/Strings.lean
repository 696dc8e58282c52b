import Formula.Proofs.Token.Locality
import Formula.Proofs.Token.Reading

/-!
# Strings are decoded exactly

Between two quotes a string means what `Quoted` says: characters that mean
themselves, and escapes.  What has this shape is scanned as a string up to its
closing quote, every string has it, and anything else behind a quote is malformed.
-/

namespace Formula

open Text

namespace Scanned

variable {chars : List Char} {quote : Char}

/-- What is quoted is scanned as a string, whatever follows it. -/
theorem lex_quoted
    (isQuote : quote = '\'' ∨ quote = '"')
    {body text : List Char}
    (quoted : Quoted quote body text)
    (flags : Flags)
    (past behind : List Char) :
    lex flags (⟨past, quote :: body ++ quote :: behind⟩ : Reader) =
      { outcome := .ok .string
        text
        source := ⟨quote :: (body.reverse ++ quote :: past), behind⟩ } := by
  rw [List.cons_append, lex_cons, if_pos isQuote, string,
    stringBody_append _ behind (ne_backslash_of_isQuote isQuote) quoted]

/-- Where nothing quoted is in front, the fault is one of strings. -/
theorem lex_unquoted
    (isQuote : quote = '\'' ∨ quote = '"')
    (unquoted :
      ∀ body text behind, Quoted quote body text → chars ≠ body ++ quote :: behind)
    (flags : Flags)
    (past : List Char) :
    ∃ fault, (lex flags (⟨past, quote :: chars⟩ : Reader)).outcome = .error fault ∧
      (fault = .unterminatedString ∨ ∃ c, fault = .invalidEscape c) := by
  rw [lex_cons, if_pos isQuote, string]
  split
  case h_2 fault text last found =>
    exact ⟨fault, rfl, stringBody_fault (congrArg Prod.fst found)⟩
  case h_1 text last found =>
    rcases stringBody_reads quote ⟨quote :: past, chars⟩ with ⟨run, reads, closed⟩
    rw [found] at reads closed
    rcases closed rfl with ⟨body, rfl, quoted⟩
    exact absurd (reads.rest_eq.trans (List.append_assoc _ _ _))
      (unquoted body text last.rest quoted)

/-- Every string is quoted, and ends behind its closing quote. -/
theorem quoted_of_kind
    {flags : Flags}
    {start : Reader}
    (isString : (lex flags start).kind = .string) :
    ∃ quote body, (quote = '\'' ∨ quote = '"') ∧
      Quoted quote body (lex flags start).text ∧
        start.rest = quote :: body ++ quote :: (lex flags start).source.rest := by
  rcases exists_lexeme flags start with ⟨lexeme, reads, _, _, formed⟩
  have spelled := (formed (isString ▸ nofun)).spelled
  rw [isString] at spelled
  rcases spelled with ⟨quote, body, isQuote, quoted, rfl⟩
  refine ⟨quote, body, isQuote, quoted, ?_⟩
  rw [reads.rest_eq, List.append_assoc]
  rfl

end Scanned

/-- Wherever a tokenizer reads on, what is quoted is served as a string with the
text that it means, and the tokenizer stands right behind the closing quote.
Conversely every string was quoted so, and whatever else follows a quote is
malformed. -/
theorem Step.strings_decoded
    (text : String)
    (steps : List Step)
    {flags : Flags}
    (reads : (state steps (.ofSource (Cursor.ofString text))).ReadsOn flags) :
    let start := state steps (.ofSource (Cursor.ofString text))
    let found := start.get flags
    (∀ quote body meant behind, (quote = '\'' ∨ quote = '"') →
      Quoted quote body meant →
        start.ahead = quote :: body ++ quote :: behind →
          found.token.kind = .string ∧ found.token.text = String.ofList meant ∧
            found.token.literal = none ∧
            found.source.rest = String.ofList behind) ∧
      (found.token.kind = .string →
        ∃ quote body behind, (quote = '\'' ∨ quote = '"') ∧
          Quoted quote body found.token.text.toList ∧
            start.ahead = quote :: body ++ quote :: behind ∧
              found.source.rest = String.ofList behind) ∧
      (∀ quote chars, (quote = '\'' ∨ quote = '"') → start.ahead = quote :: chars →
        (∀ body meant behind, Quoted quote body meant →
          chars ≠ body ++ quote :: behind) →
            found.token.kind = .error ∧
              ∃ fault, found.failure = some fault ∧
                (fault.cause = .unterminatedString ∨
                  ∃ c, fault.cause = .invalidEscape c)) := by
  intro start found
  rcases found_get text steps reads with ⟨past, isFound⟩
  refine ⟨?_, ?_, ?_⟩
  · intro quote body meant behind isQuote quoted front
    have lexed := Scanned.lex_quoted isQuote quoted flags past behind
    rw [← front] at lexed
    rw [lexed] at isFound
    exact ⟨isFound.kind_eq, isFound.text_eq, isFound.literal_eq, isFound.rest_eq⟩
  · intro isString
    rcases Scanned.quoted_of_kind (isFound.kind_eq.symm.trans isString) with
      ⟨quote, body, isQuote, quoted, front⟩
    refine ⟨quote, body, _, isQuote, ?_, front, isFound.rest_eq⟩
    rw [isFound.text_eq, String.toList_ofList]
    exact quoted
  · intro quote chars isQuote front unquoted
    rcases Scanned.lex_unquoted isQuote unquoted flags past with
      ⟨cause, failed, isOfString⟩
    rw [← front] at failed
    rcases isFound.failure cause failed with ⟨fault, isFault, rfl⟩
    refine ⟨?_, fault, isFault, isOfString⟩
    rw [isFound.kind_eq, Scanned.kind, failed]

/-- An escaped quote and a code point in front of other text. -/
theorem Step.strings_decoded_escapes :
    let start := state [] (.ofSource (Cursor.ofString " 'it\\'s\\u0021' x"))
    let found := start.get {}
    start.ReadsOn {} ∧ found.token.kind = .string ∧ found.token.text = "it's!" ∧
      found.token.literal = none ∧ found.source.rest = " x" := by
  have reads :=
    Tokenizer.readsOn_ofSource {} (Cursor.ofString " 'it\\'s\\u0021' x")
  have front : (Tokenizer.ofSource (Cursor.ofString " 'it\\'s\\u0021' x")).ahead =
      '\'' :: ['i', 't', '\\', '\'', 's', '\\', 'u', '0', '0', '2', '1'] ++
        '\'' :: [' ', 'x'] := by
    rw [Tokenizer.ahead_ofString]
    decide
  have code : Escape ['u', '0', '0', '2', '1'] '!' :=
    @Escape.code ['0', '0', '2', '1'] rfl (by decide) (by decide)
  have quoted :
      Quoted '\'' ['i', 't', '\\', '\'', 's', '\\', 'u', '0', '0', '2', '1']
        ['i', 't', '\'', 's', '!'] :=
      .plain (by decide) (by decide)
        (.plain (by decide) (by decide) (.escape (.short (by decide))
        (.plain (by decide) (by decide) (.escape code .empty))))
  exact ⟨reads, (strings_decoded _ [] reads).1 _ _ _ _ (.inl rfl) quoted front⟩

end Formula
