import Formula.Proofs.Text.Classes
import Formula.Text.Quoted
import Formula.Token.Basic

/-!
# Shapes of tokens

Which pieces of a text are tokens of which kind, with which text and number.  A
name stands behind a colon, a string is written between quotes and with escapes,
and every other token is its own text.
-/

namespace Formula

/-! ## Strings -/

namespace Text

/-- The escapes of one character: the mark behind the backslash, and what it
means. -/
def shortEscapes : List (Char × Char) :=
  [('n', '\n'), ('r', '\r'), ('t', '\t'), ('0', '\x00'), ('\\', '\\'),
    ('\'', '\''), ('"', '"')]

/-- What may stand behind a backslash, and the character that it means. -/
inductive Escape : List Char → Char → Prop where
  | short {mark meant : Char} :
      (mark, meant) ∈ shortEscapes → Escape [mark] meant
  | code {digits : List Char} :
      digits.length = 4 → (∀ c ∈ digits, isHex c) →
        (ofDigits 16 digits).isValidChar →
          Escape ('u' :: digits) (Char.ofNat (ofDigits 16 digits))

/-- Characters between two quotes, and the text that they mean. -/
inductive Quoted (quote : Char) : List Char → List Char → Prop where
  | empty : Quoted quote [] []
  | plain {c : Char} {body text : List Char} :
      c ≠ quote → c ≠ '\\' → Quoted quote body text →
        Quoted quote (c :: body) (c :: text)
  | escape {run body text : List Char} {meant : Char} :
      Escape run meant → Quoted quote body text →
        Quoted quote ('\\' :: run ++ body) (meant :: text)

theorem mem_shortEscapes_of_unescape?
    {mark meant : Char}
    (found : unescape? mark = some meant) :
    (mark, meant) ∈ shortEscapes := by
  rw [unescape?.eq_def] at found
  split at found <;> cases found <;> decide

end Text

/-! ## Symbols -/

/-- The tokens that are neither words nor literals. -/
def TokenKind.symbols : List (String × TokenKind) :=
  [("(", openParen), (")", closeParen), ("[", openBracket), ("]", closeBracket),
   (",", comma), ("?", question), (":", colon), (";", semicolon),
   ("&", and), ("&&", and), ("|", or), ("||", or), ("^", xor), ("^^", xor),
   ("~", bitNot), ("!", not), ("!=", ne), ("=", eq), ("==", eq),
   ("<", lt), ("<=", le), ("<=>", cmp), ("<>", ne), (">", gt), (">=", ge),
   ("+", add), ("-", sub), ("*", mul), ("**", pow), ("/", div), ("%", rem),
   (".", concat)]

/-! ## All tokens -/

open Text

/-- The characters that spell a token of a kind, with its text and its number. -/
inductive Formed : List Char → TokenKind → List Char → Option Numeral → Prop where
  | endOfInput : Formed [] .endOfInput [] none
  | identifier {name : List Char} :
      IsName (.ofList name) → Formed (':' :: name) .identifier name none
  | bareword {name : List Char} :
      IsName (.ofList name) → Formed name .bareword name none
  | keyword {name : List Char} {kind : TokenKind} :
      IsName (.ofList name) → (.ofList name, kind) ∈ TokenKind.keywords →
        Formed name kind name none
  | symbol {text : List Char} {kind : TokenKind} :
      (.ofList text, kind) ∈ TokenKind.symbols → Formed text kind text none
  | string {quote : Char} {body text : List Char} :
      quote = '\'' ∨ quote = '"' → Quoted quote body text →
        Formed (quote :: body ++ [quote]) .string text none
  | integer {text : List Char} (n : Int64) :
      text ≠ [] → Formed text .integer text (some (.int n))
  | float {text : List Char} {x : Float} :
      text ≠ [] → x.isNaN = false → Formed text .float text (some (.float x))

namespace TokenKind

theorem mem_keywords_of_ofWord?
    {word : String}
    {kind : TokenKind}
    (found : ofWord? word = some kind) :
    (word, kind) ∈ keywords := by
  rcases List.lookup_eq_some_iff.mp found with ⟨before, behind, split, _⟩
  rw [split]
  exact List.mem_append_right _ List.mem_cons_self

theorem symbols_ne_empty : ∀ entry ∈ symbols, entry.1 ≠ "" := by
  decide

/-- No symbol is taken for a word. -/
theorem symbols_head :
    ∀ entry ∈ symbols, ∀ c, entry.1.toList.head? = some c →
      isNameFirst c = false := by
  have heads : ∀ entry ∈ symbols,
      (entry.1.toList.head?.map isNameFirst).getD false = false := by
    decide
  intro entry isEntry c first
  simpa [first] using heads entry isEntry

theorem symbols_ne_name :
    ∀ entry ∈ symbols, entry.2 ≠ .identifier ∧ entry.2 ≠ .bareword := by
  decide

/-- Whether the text of a token of the kind is the token as it is written. -/
def isVerbatim : TokenKind → Bool
  | endOfInput | error | identifier | string | unread => false
  | _ => true

theorem isVerbatim_of_isKeyword
    {kind : TokenKind}
    (isKeyword : kind.isKeyword) :
    kind.isVerbatim := by
  cases kind <;> first | rfl | cases isKeyword

theorem symbols_isVerbatim : ∀ entry ∈ symbols, entry.2.isVerbatim := by
  decide

end TokenKind

namespace Formed

variable {lexeme text : List Char} {kind : TokenKind} {literal : Option Numeral}

/-- Only the end of the input is spelled by nothing. -/
theorem eq_nil_iff (formed : Formed lexeme kind text literal) :
    lexeme = [] ↔ kind = .endOfInput := by
  have verbatim :
      text ≠ [] → kind.isVerbatim → (text = [] ↔ kind = .endOfInput) := by
    intro notEmpty isVerbatim
    constructor
    · exact fun isEmpty => absurd isEmpty notEmpty
    · rintro rfl
      cases isVerbatim
  have notEmpty : String.ofList text ≠ "" → text ≠ [] := by
    rintro notEmpty rfl
    exact notEmpty rfl
  cases formed with
  | endOfInput => exact ⟨fun _ => rfl, fun _ => rfl⟩
  | identifier _ => exact ⟨nofun, nofun⟩
  | bareword isName => exact verbatim (notEmpty isName.ne_empty) rfl
  | keyword isName reserved =>
      exact verbatim (notEmpty isName.ne_empty)
        (TokenKind.isVerbatim_of_isKeyword
          (TokenKind.isKeyword_of_mem_keywords _ reserved))
  | symbol isSymbol =>
      exact verbatim (notEmpty (TokenKind.symbols_ne_empty _ isSymbol))
        (TokenKind.symbols_isVerbatim _ isSymbol)
  | string _ _ => exact ⟨nofun, nofun⟩
  | integer n nonempty => exact verbatim nonempty rfl
  | float nonempty _ => exact verbatim nonempty rfl

/-- What can be a name is one: a symbol is not taken for a word. -/
theorem isName
    (formed : Formed lexeme kind text literal)
    (isWord : kind = .identifier ∨ kind = .bareword ∨
      kind.isKeyword ∧ ∃ first, text.head? = some first ∧ isNameFirst first) :
    IsName (.ofList text) := by
  cases formed with
  | identifier isName => exact isName
  | bareword isName => exact isName
  | keyword isName _ => exact isName
  | symbol isSymbol =>
      have notName := TokenKind.symbols_ne_name _ isSymbol
      rcases isWord with isIdentifier | isBareword | ⟨_, first, front, starts⟩
      · exact absurd isIdentifier notName.1
      · exact absurd isBareword notName.2
      · have notFirst :=
          TokenKind.symbols_head _ isSymbol first (by simpa using front)
        simp [notFirst] at starts
  | endOfInput => simp [TokenKind.isKeyword] at isWord
  | string _ _ => simp [TokenKind.isKeyword] at isWord
  | integer _ _ => simp [TokenKind.isKeyword] at isWord
  | float _ _ => simp [TokenKind.isKeyword] at isWord

theorem isNaN_eq_false
    {x : Float}
    (formed : Formed lexeme kind text (some (.float x))) :
    x.isNaN = false := by
  cases formed with
  | float _ isNumber => exact isNumber

end Formed

end Formula
