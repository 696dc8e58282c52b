import Formula.Proofs.Grammar.Basic
import Formula.Proofs.Token.Lexemes

/-!
# Pieces of text

Which pieces of a text are terminals of the grammar, and which are derived from
its symbols.  What was read before a piece never matters, but what follows it
does: it may have to stand apart.  Blanks in front of a piece are skipped.
-/

namespace Formula.Grammar

open Text Number

/-- A piece of text is a token with a meaning, in front of the rest of the text. -/
def Lexeme
    (mode : Mode)
    (piece rest : List Char)
    (meant : Token → Prop) :
    Prop :=
  ∀ past, ∃ token,
    Terminal mode (⟨past, piece ++ rest⟩ : Reader) token
      ⟨piece.reverse ++ past, rest⟩ ∧
        meant token

/-- A piece of text is derived from a symbol, in front of the rest of the text. -/
def Spans
    (symbol : Symbol)
    (piece rest : List Char)
    (yield : symbol.Yield) :
    Prop :=
  ∀ past, Derives symbol (⟨past, piece ++ rest⟩ : Reader) yield
    ⟨piece.reverse ++ past, rest⟩

variable {mode : Mode} {piece rest : List Char}

/-- What a token means may be told in other words. -/
theorem Lexeme.imp
    {meant meant' : Token → Prop}
    (lexeme : Lexeme mode piece rest meant)
    (implies : ∀ token, meant token → meant' token) :
    Lexeme mode piece rest meant' := by
  intro past
  rcases lexeme past with ⟨token, terminal, isMeant⟩
  exact ⟨token, terminal, implies token isMeant⟩

/-! ## Blanks -/

/-- Tokens are the same behind a blank as in front of it. -/
theorem Terminal.of_blank
    {before s s' : Reader}
    {c : Char}
    {token : Token}
    (terminal : Terminal mode s token s')
    (read : before.next = some (c, s))
    (blank : isBlank c) :
    Terminal mode before token s' := by
  rcases before with ⟨past, _ | ⟨first, text⟩⟩
  · cases read
  · cases read
    have same : (Tokenizer.ofSource (⟨past, c :: text⟩ : Reader)).scan mode.flags =
        (Tokenizer.ofSource (⟨c :: past, text⟩ : Reader)).scan mode.flags := by
      simp [Tokenizer.scan, Tokenizer.ofSource, blank]
    rcases terminal with ⟨isToken, isSource, wellFormed⟩
    exact ⟨same ▸ isToken, same ▸ isSource, wellFormed⟩

/-- So is whatever starts with a token. -/
theorem Derives.of_blank
    {before s s' : Reader}
    {c : Char}
    {symbol : Symbol}
    {yield : symbol.Yield}
    (derives : Derives symbol s yield s')
    (notIndices : symbol ≠ .indices)
    (read : before.next = some (c, s))
    (blank : isBlank c) :
    Derives symbol before yield s' := by
  induction derives with
  | plainTernary _ ih => exact .plainTernary (ih nofun read)
  | conditional _ question isQuestion yes colon isColon no ih =>
      exact .conditional (ih nofun read) question isQuestion yes colon isColon no
  | tighter within _ ih => exact .tighter within (ih nofun read)
  | binary _ terminal isBinary ranked right ih =>
      exact .binary (ih nofun read) terminal isBinary ranked right
  | tightest _ ih => exact .tightest (ih nofun read)
  | negation terminal negator operand =>
      exact .negation (terminal.of_blank read blank) negator operand
  | plainSign terminal notNegator _ ih =>
      exact .plainSign (terminal.of_blank read blank) notNegator (ih nofun read)
  | sign terminal isSign operand =>
      exact .sign (terminal.of_blank read blank) isSign operand
  | defined terminal isDefined operand =>
      exact .defined (terminal.of_blank read blank) isDefined operand
  | plainPrimary terminal notSign notDefined _ ih =>
      exact .plainPrimary (terminal.of_blank read blank) notSign notDefined
        (ih nofun read)
  | existingParens terminal isOpen inner closing isClose =>
      exact .existingParens (terminal.of_blank read blank) isOpen inner
        closing isClose
  | existing terminal isName indices =>
      exact .existing (terminal.of_blank read blank) isName indices
  | literal terminal isLiteral =>
      exact .literal (terminal.of_blank read blank) isLiteral
  | parens terminal isOpen inner closing isClose =>
      exact .parens (terminal.of_blank read blank) isOpen inner closing isClose
  | emptyCall terminal isName notLiteral opening isOpen closing isClose =>
      exact .emptyCall (terminal.of_blank read blank) isName notLiteral opening
        isOpen closing isClose
  | call terminal isName notLiteral opening isOpen arguments =>
      exact .call (terminal.of_blank read blank) isName notLiteral opening
        isOpen arguments
  | «variable» terminal isName notLiteral indices =>
      exact .variable (terminal.of_blank read blank) isName notLiteral indices
  | lastArgument _ closing isClose ih =>
      exact .lastArgument (ih nofun read) closing isClose
  | argument _ comma isComma others ih =>
      exact .argument (ih nofun read) comma isComma others
  | noIndex => exact absurd rfl notIndices
  | index => exact absurd rfl notIndices

theorem Lexeme.of_blank
    {meant : Token → Prop}
    {c : Char}
    (lexeme : Lexeme mode piece rest meant)
    (blank : isBlank c) :
    Lexeme mode (c :: piece) rest meant := by
  intro past
  rcases lexeme (c :: past) with ⟨token, terminal, isMeant⟩
  refine ⟨token, ?_, isMeant⟩
  have shifted : Terminal mode (⟨past, c :: piece ++ rest⟩ : Reader) token _ :=
    terminal.of_blank rfl blank
  simpa using shifted

theorem Spans.of_blank
    {symbol : Symbol}
    {yield : symbol.Yield}
    {c : Char}
    (spans : Spans symbol piece rest yield)
    (notIndices : symbol ≠ .indices)
    (blank : isBlank c) :
    Spans symbol (c :: piece) rest yield := by
  intro past
  have shifted : Derives symbol (⟨past, c :: piece ++ rest⟩ : Reader) yield _ :=
    (spans (c :: past)).of_blank notIndices rfl blank
  simpa using shifted

/-! ## Tokens -/

/-- What is scanned is a terminal. -/
theorem Lexeme.of_lex
    {kind : TokenKind}
    {text : List Char}
    {literal : Option Numeral}
    {meant : Token → Prop}
    (starts : (piece ++ rest)[0]?.any isBlank = false)
    (lexed : ∀ past, Scanned.lex mode.flags (⟨past, piece ++ rest⟩ : Reader) =
      { outcome := .ok kind, text, literal,
        source := ⟨piece.reverse ++ past, rest⟩ })
    (wellFormed : kind ≠ .error)
    (isMeant : ∀ place, meant ⟨kind, String.ofList text, literal, place⟩) :
    Lexeme mode piece rest meant := by
  intro past
  have skip : CharSource.readWhile isBlank (⟨past, piece ++ rest⟩ : Reader) =
      ([], ⟨past, piece ++ rest⟩) := by
    have none : ∀ c ∈ ([] : List Char), isBlank c := nofun
    exact Reader.readWhile_append past (piece ++ rest) none starts
  refine ⟨_, ⟨?_, ?_, wellFormed⟩, isMeant (.behind past)⟩
  · simp only [Tokenizer.scan, Tokenizer.ofSource, skip, lexed]
    rfl
  · simp only [Tokenizer.scan, Tokenizer.ofSource, skip, lexed]

/-- The end of the text is the end of the input. -/
theorem Lexeme.endOfInput : Lexeme mode [] [] (·.kind = .endOfInput) :=
  .of_lex rfl (fun past => Scanned.lex_nil past) nofun fun _ => rfl

/-- Reserved words are words. -/
theorem isWord_of_mem_keywords :
    ∀ entry ∈ TokenKind.keywords,
      (entry.1.toList.head?.any isNameFirst && entry.1.toList.all isNameNext) =
        true := by
  decide

/-- A reserved word is a token of its kind. -/
theorem Lexeme.keyword
    {word : String}
    {kind : TokenKind}
    (reserved : TokenKind.ofWord? word = some kind)
    (apart : Apart rest) :
    Lexeme mode word.toList rest (·.kind = kind) := by
  have listed : (word, kind) ∈ TokenKind.keywords := by
    rcases List.lookup_eq_some_iff.mp reserved with ⟨before, behind, split, _⟩
    rw [split]
    exact List.mem_append_right before List.mem_cons_self
  have isWord := isWord_of_mem_keywords (word, kind) listed
  have wellFormed : kind ≠ .error := by
    rintro rfl
    exact Bool.false_ne_true
      (TokenKind.isKeyword_of_mem_keywords (word, .error) listed)
  have notPlain : mode.flags.plainWords = false := by
    cases mode <;> rfl
  cases chars : word.toList with
  | nil => simp [chars] at isWord
  | cons first run =>
      simp only [chars, List.head?_cons, Option.any_some, Bool.and_eq_true,
        List.all_eq_true] at isWord
      have belongs : ∀ c ∈ run, isNameNext c :=
        fun c isMember => isWord.2 c (List.mem_cons_of_mem first isMember)
      have same : String.ofList (first :: run) = word := by
        rw [← chars, String.ofList_toList]
      have notBlank := isBlank_of_isNameNext (isNameNext_of_isNameFirst isWord.1)
      exact .of_lex (by simp [notBlank])
        (fun _ => Scanned.lex_keyword (same ▸ reserved) notPlain isWord.1 belongs
          apart) wellFormed
        fun _ => rfl

/-- A name behind a colon is a token that gives the name. -/
theorem Lexeme.identifier
    {first : Char}
    {run : List Char}
    (starts : isNameFirst first)
    (belongs : ∀ c ∈ run, isNameNext c)
    (apart : Apart rest) :
    Lexeme mode (':' :: first :: run) rest
      (fun token =>
        token.kind = .identifier ∧ Name token (String.ofList (first :: run))) :=
  .of_lex rfl (fun _ => Scanned.lex_identifier starts belongs apart) nofun
    fun _ => ⟨rfl, .identifier rfl⟩

/-- The punctuation marks of one character. -/
inductive Mark : Char → TokenKind → Prop where
  | openParen : Mark '(' .openParen
  | closeParen : Mark ')' .closeParen
  | openBracket : Mark '[' .openBracket
  | closeBracket : Mark ']' .closeBracket
  | comma : Mark ',' .comma
  | question : Mark '?' .question
  | semicolon : Mark ';' .semicolon

/-- A punctuation mark is a token, whatever follows it. -/
theorem Lexeme.mark
    {c : Char}
    {kind : TokenKind}
    (isMark : Mark c kind) :
    Lexeme mode [c] rest (·.kind = kind) := by
  cases isMark <;> exact .of_lex rfl (fun _ => rfl) nofun fun _ => rfl

/-! ## Operators -/

/-- A colon that no name follows is a token. -/
theorem Lexeme.colon
    (apart : rest[0]?.any isNameFirst = false) :
    Lexeme mode [':'] rest (·.kind = .colon) :=
  .of_lex rfl (fun _ => Scanned.lex_colon apart) nofun fun _ => rfl

theorem apart_space (rest : List Char) : Apart (' ' :: rest) :=
  apart_cons rest rfl (by decide)

/-- Between operands, the symbol of an operator is a token that means the
operator. -/
theorem Lexeme.binary
    {op : Op}
    {rank : Nat}
    (ranked : rank? op = some rank) :
    Lexeme .operator op.symbol.toList (' ' :: rest)
      (binary? ·.kind = some op) := by
  have word :
      ∀ {kind}, TokenKind.ofWord? op.symbol = some kind → binary? kind = some op →
      Lexeme .operator op.symbol.toList (' ' :: rest) (binary? ·.kind = some op) :=
    fun reserved means =>
      (Lexeme.keyword reserved (apart_space rest)).imp fun _ isKind =>
        isKind ▸ means
  cases op
  case and | or | xor | bitAnd | bitOr | bitXor => exact word rfl rfl
  case intEq | intNe | intLt | intGt | intLe | intGe | intCmp => exact word rfl rfl
  case intAdd | intSub | intMul | intDiv | intMod | replicate => exact word rfl rfl
  case eq | ne | lt | gt | le | ge | cmp | add | sub | mul | div | rem |
    pow | concat =>
      exact .of_lex rfl (fun _ => rfl) nofun fun _ => rfl
  all_goals cases ranked

/-- In front of an operand, the symbol of a negation is a token that means it. -/
theorem Lexeme.negator
    {kind : TokenKind}
    {op : Op}
    (isNegator : Negator kind op) :
    Lexeme .operand op.symbol.toList (' ' :: rest) (Negator ·.kind op) := by
  cases isNegator with
  | not => exact .of_lex rfl (fun _ => rfl) nofun fun _ => .not
  | bitNot => exact .of_lex rfl (fun _ => rfl) nofun fun _ => .bitNot

/-- So are the symbols of the other operators there. -/
theorem Lexeme.sign
    {kind : TokenKind}
    {op : Op}
    (isSign : Sign kind op) :
    Lexeme .operand op.symbol.toList (' ' :: rest) (Sign ·.kind op) := by
  have word : TokenKind.ofWord? op.symbol = some kind →
      Lexeme .operand op.symbol.toList (' ' :: rest) (Sign ·.kind op) :=
    fun reserved =>
      (Lexeme.keyword reserved (apart_space rest)).imp fun _ isKind =>
        isKind ▸ isSign
  cases isSign
  case plus => exact .of_lex rfl (fun _ => rfl) nofun fun _ => .plus
  case minus => exact .of_lex rfl (fun _ => rfl) nofun fun _ => .minus
  all_goals exact word rfl

theorem Lexeme.defined :
    Lexeme .operand Op.defined.symbol.toList (' ' :: rest) (·.kind = .defined) :=
  .keyword rfl (apart_space rest)

end Formula.Grammar
