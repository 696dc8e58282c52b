import Formula.Proofs.Token.Coverage
import Mathlib.Data.List.Forall2

/-!
# Words that are not reserved

With no reserved words, a text has the same tokens as with all of them, one
by one: only those that are spelled as words are barewords then.  What is
spelled as a word is exactly what the scanner of words has read, since no
other token starts like a name.
-/

namespace Formula

open Text

/-! ## Words -/

theorem Token.isSome_word?_iff (token : Token) :
    token.word?.isSome ↔ token.kind = .bareword ∨
      token.kind.isKeyword ∧ ∃ first, token.text.toList.head? = some first ∧
        isNameFirst first := by
  rw [word?]
  cases front : token.text.toList.head? <;> simp

/-- A token that is spelled as a word starts like a name. -/
theorem Formed.starts_of_word
    {lexeme text : List Char}
    {kind : TokenKind}
    {literal : Option Numeral}
    (formed : Formed lexeme kind text literal)
    (isWord : kind = .bareword ∨
      kind.isKeyword ∧ ∃ first, text.head? = some first ∧ isNameFirst first) :
    ∃ first rest, lexeme = first :: rest ∧ isNameFirst first := by
  cases formed with
  | bareword isName | keyword isName _ =>
      rcases isName with ⟨first, rest, isText, starts, _⟩
      exact ⟨first, rest, by simpa using isText, starts⟩
  | symbol isSymbol =>
      rcases isWord with isBareword | ⟨_, first, front, starts⟩
      · exact absurd isBareword (TokenKind.symbols_ne_name _ isSymbol).2
      · have notFirst :=
          TokenKind.symbols_head _ isSymbol first (by simpa using front)
        simp [notFirst] at starts
  | endOfInput | identifier _ | string _ _ | integer _ _ | float _ _ =>
      simp [TokenKind.isKeyword] at isWord

namespace Scanned

variable {flags flags' : Flags} {past rest : List Char} {c : Char}

/-- What does not start like a name is scanned without regard to which words are
reserved. -/
theorem lex_eq_of_not_isNameFirst
    (notName : isNameFirst c = false)
    (sameSigns : flags.splitSigns = flags'.splitSigns) :
    lex flags (⟨past, c :: rest⟩ : Reader) = lex flags' ⟨past, c :: rest⟩ := by
  have notWord : ¬ isNameFirst c := Bool.not_eq_true _ ▸ notName
  simp only [lex_cons, if_neg notWord, sign, sameSigns]

end Scanned

/-! ## Runs -/

namespace Tokenizer

/-- The tokens that are read with the same options, up to the end of the input or
to a malformed token, each with what is wrong with it. -/
def tokens {σ : Type} [CharSource σ]
    (flags : Flags)
    (tokenizer : Tokenizer σ) :
    List (Token × Option ScanFailure) :=
  let next := tokenizer.get { flags with get := true }
  (next.token, next.failure) ::
    if _last : next.token.kind = .endOfInput ∨ next.token.kind = .error then []
    else next.tokens flags
termination_by tokenizer.size
decreasing_by
  exact size_get_lt rfl (fun atEnd => _last (.inl atEnd))
    fun bad => _last (.inr bad)

/-- Over related sources, the same tokens are read. -/
theorem Alike.tokens_eq {σ τ : Type} [CharSource σ] [CharSource τ]
    {alike : σ → τ → Prop}
    {left : Tokenizer σ}
    {right : Tokenizer τ}
    (rewinding : Rewinding alike)
    (flags : Flags)
    (same : Alike alike left right) :
    left.tokens flags = right.tokens flags := by
  have next := same.get rewinding { flags with get := true }
  rw [tokens.eq_def flags left, tokens.eq_def flags right]
  dsimp only
  rw [next.token_eq, next.failure_eq]
  split
  case isTrue => rfl
  case isFalse goesOn =>
    have shorter : (left.get { flags with get := true }).size < left.size :=
      size_get_lt rfl (fun atEnd => goesOn (.inl (next.token_eq ▸ atEnd)))
        (fun bad => goesOn (.inr (next.token_eq ▸ bad)))
    rw [next.tokens_eq rewinding flags]
termination_by left.size

end Tokenizer

/-- One token is another one without regard to which words are reserved: nothing
differs but the kind of words. -/
structure Token.Degrades (plain token : Token) : Prop where
  text_eq : plain.text = token.text
  literal_eq : plain.literal = token.literal
  place_eq : plain.place = token.place
  kind_eq : plain.kind = if token.word?.isSome then .bareword else token.kind

/-- A token ends the run without reserved words where it ends the one with them. -/
theorem Token.Degrades.ends_iff
    {plain token : Token}
    (degrades : plain.Degrades token) :
    plain.kind = .endOfInput ∨ plain.kind = .error ↔
      token.kind = .endOfInput ∨ token.kind = .error := by
  rw [degrades.kind_eq]
  split
  case isFalse => rfl
  case isTrue isWord =>
    rcases (Token.isSome_word?_iff token).mp isWord with
      isBareword | ⟨isKeyword, _⟩
    · simp [isBareword]
    · constructor
      · simp
      · rintro (atEnd | malformed)
        · simp [atEnd, TokenKind.isKeyword] at isKeyword
        · simp [malformed, TokenKind.isKeyword] at isKeyword

/-- The options under which no word is reserved. -/
def Flags.allPlain (flags : Flags) : Flags :=
  { flags with plainWords := true }

/-- The options under which words are reserved, and the other words are
barewords. -/
def Flags.allWords (flags : Flags) : Flags :=
  { flags with plainWords := false, barewords := true }

namespace Scanned

/-- What was scanned is spelled as a word. -/
def IsWord {σ : Type} (scanned : Scanned σ) : Prop :=
  scanned.kind = .bareword ∨
    scanned.kind.isKeyword ∧ ∃ first, scanned.text.head? = some first ∧
      isNameFirst first

theorem IsWord.ne_error {σ : Type}
    {scanned : Scanned σ}
    (isWord : scanned.IsWord) :
    scanned.kind ≠ .error := by
  intro malformed
  simp [IsWord, malformed, TokenKind.isKeyword] at isWord

/-- Words become barewords, and all else stays what it is. -/
theorem lex_allPlain
    (flags : Flags)
    (start : Reader) :
    let words := lex flags.allWords start
    ¬ words.IsWord ∧ lex flags.allPlain start = words ∨
      words.IsWord ∧
        lex flags.allPlain start = { words with outcome := .ok .bareword } := by
  intro words
  rcases start with ⟨past, _ | ⟨c, rest⟩⟩
  · exact .inl ⟨by simp [words, lex_nil, IsWord, kind, TokenKind.isKeyword], rfl⟩
  cases starts : isNameFirst c with
  | false =>
      refine .inl ⟨fun isWord => ?_, lex_eq_of_not_isNameFirst starts rfl⟩
      rcases lex_faithful flags.allWords past rest c with ⟨chars, _, formed⟩
      rcases (formed _ (outcome_eq_of_kind isWord.ne_error)).starts_of_word
        isWord with
        ⟨first, _, isLexeme, starts'⟩
      obtain rfl : c = first := (List.cons.inj isLexeme).1
      simp [starts'] at starts
  | true =>
      have isWords : words = word flags.allWords c ⟨c :: past, rest⟩ :=
        lex_word starts
      have isPlain : lex flags.allPlain (⟨past, c :: rest⟩ : Reader) =
          word flags.allPlain c ⟨c :: past, rest⟩ :=
        lex_word starts
      refine .inr ⟨?_, ?_⟩
      · rw [isWords, word, IsWord]
        dsimp only [Flags.allWords, kind]
        cases reserved : TokenKind.ofWord? _ with
        | none => exact .inl rfl
        | some kind =>
            have isKeyword := TokenKind.isKeyword_of_mem_keywords _
              (TokenKind.mem_keywords_of_ofWord? reserved)
            exact .inr ⟨isKeyword, c, rfl, starts⟩
      · rw [isWords, isPlain]
        rfl

end Scanned

namespace Tokenizer

variable {left right : Tokenizer Reader}

theorem failure_scan {σ : Type} [CharSource σ]
    (flags : Flags)
    (tokenizer : Tokenizer σ) :
    (tokenizer.scan flags).failure =
      let start := (CharSource.readWhile isBlank tokenizer.source).2
      match (Scanned.lex flags start).outcome with
      | .ok _ => tokenizer.failure
      | .error cause => some ⟨cause, CharSource.place start⟩ := by
  rw [scan]
  dsimp only
  cases (Scanned.lex flags
    (CharSource.readWhile isBlank tokenizer.source).2).outcome <;> rfl

/-- Tokenizers over the same text, without and with reserved words. -/
structure Degrades (left right : Tokenizer Reader) : Prop where
  source_eq : left.source = right.source
  failure_eq : left.failure = right.failure
  token : left.token.Degrades right.token

/-- Reading on keeps them so. -/
theorem degrades_scan
    {left right : Tokenizer Reader}
    (flags : Flags)
    (sameSource : left.source = right.source)
    (sameFailure : left.failure = right.failure) :
    Degrades (left.scan flags.allPlain) (right.scan flags.allWords) := by
  have isWord_iff : ∀ (scanned : Scanned Reader) (place : Place),
      (Token.mk scanned.kind (String.ofList scanned.text) scanned.literal
        place).word?.isSome ↔
          scanned.IsWord := by
    intro scanned place
    rw [Token.isSome_word?_iff, String.toList_ofList, Scanned.IsWord]
  have source :=
    Scanned.lex_allPlain flags (CharSource.readWhile isBlank right.source).2
  rw [← sameSource] at source
  constructor
  case source_eq =>
    rw [source_scan, source_scan, ← sameSource]
    rcases source with ⟨_, same⟩ | ⟨_, same⟩ <;> rw [same]
  case failure_eq =>
    rw [failure_scan, failure_scan, ← sameSource, ← sameFailure]
    dsimp only
    rcases source with ⟨_, same⟩ | ⟨isWord, same⟩
    · rw [same]
    · rw [same, Scanned.outcome_eq_of_kind isWord.ne_error]
  case token =>
    rw [token_scan, token_scan, ← sameSource]
    dsimp only
    rcases source with ⟨notWord, same⟩ | ⟨isWord, same⟩
    · rw [same]
      exact ⟨rfl, rfl, rfl,
        (if_neg fun isWord => notWord ((isWord_iff _ _).mp isWord)).symm⟩
    · rw [same]
      exact ⟨rfl, rfl, rfl, (if_pos ((isWord_iff _ _).mpr isWord)).symm⟩

/-- The two runs go on side by side.  The induction is on what is left to read. -/
theorem Degrades.tokens
    {left right : Tokenizer Reader}
    (flags : Flags)
    (degrades : Degrades left right)
    (nothingBack : left.pending = 0 ∧ right.pending = 0)
    (wellFormed : left.token.kind ≠ .error ∧ right.token.kind ≠ .error) :
    List.Forall₂ (fun plain word => plain.1.Degrades word.1 ∧ plain.2 = word.2)
      (left.tokens flags.allPlain) (right.tokens flags.allWords) := by
  have next :=
    degrades_scan { flags with get := true } degrades.source_eq degrades.failure_eq
  have isNext : left.get { flags.allPlain with get := true } =
      left.scan (Flags.allPlain { flags with get := true }) :=
    get_eq_scan rfl nothingBack.1 wellFormed.1
  have isNext' : right.get { flags.allWords with get := true } =
      right.scan (Flags.allWords { flags with get := true }) :=
    get_eq_scan rfl nothingBack.2 wellFormed.2
  rw [← isNext, ← isNext'] at next
  rw [Tokenizer.tokens.eq_def flags.allPlain,
    Tokenizer.tokens.eq_def flags.allWords]
  refine .cons ⟨next.token, next.failure_eq⟩ ?_
  by_cases ends :
    (left.get { flags.allPlain with get := true }).token.kind = .endOfInput ∨
      (left.get { flags.allPlain with get := true }).token.kind = .error
  · rw [dif_pos ends, dif_pos (next.token.ends_iff.mp ends)]
    exact .nil
  have ends' := mt next.token.ends_iff.mpr ends
  rw [dif_neg ends, dif_neg ends']
  have shorter : (left.get { flags.allPlain with get := true }).size < left.size :=
    size_get_lt rfl (fun atEnd => ends (.inl atEnd)) fun malformed =>
      ends (.inr malformed)
  refine next.tokens flags ⟨?_, ?_⟩
    ⟨fun malformed => ends (.inr malformed), fun malformed =>
      ends' (.inr malformed)⟩
  · rw [isNext, pending_scan, nothingBack.1]
  · rw [isNext', pending_scan, nothingBack.2]
termination_by left.size

/--
Without reserved words a text has as many tokens as with all of them, and one by
one they have the same text, literal and place, and the same fault.  The kinds are
the same too, but for the tokens that are spelled as words, which are barewords.
-/
theorem tokens_allPlain
    (text : String)
    (flags : Flags) :
    List.Forall₂ (fun plain word => plain.1.Degrades word.1 ∧ plain.2 = word.2)
      ((ofSource (Cursor.ofString text)).tokens flags.allPlain)
      ((ofSource (Cursor.ofString text)).tokens flags.allWords) := by
  have same := alike_ofSource (Cursor.models_ofString text)
  rw [same.tokens_eq (Cursor.rewinding text),
    same.tokens_eq (Cursor.rewinding text)]
  have degrades : Degrades (ofSource (Reader.ofList text.toList))
      (ofSource (Reader.ofList text.toList)) :=
    ⟨rfl, rfl, rfl, rfl, rfl, rfl⟩
  exact degrades.tokens flags ⟨rfl, rfl⟩ ⟨nofun, nofun⟩

end Tokenizer

end Formula
