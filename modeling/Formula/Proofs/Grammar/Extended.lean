import Formula.Proofs.Grammar.Locality
import Formula.Proofs.Token.Signs

/-!
# More text behind a derivation

What is derived from a piece of text is derived from it in the same way if
the text goes on with a blank or a sign.  Only a number could swallow a sign,
as that of its exponent, but a number in front of the mere letter of an
exponent is followed by no token.
-/

namespace Formula

open Text

namespace Grammar

open Tokenizer

variable {mode : Mode} {s s' : Reader} {token : Token}

/-- Some token follows. -/
def Follows (s : Reader) : Prop :=
  ∃ token s', Terminal .operator s token s'

/-- No token stands where there is nothing but the letter of an exponent. -/
theorem Follows.ne_letter
    (follows : Follows s)
    {letter : Char}
    (isLetter : letter = 'e' ∨ letter = 'E') :
    s.rest ≠ [letter] := by
  rcases s with ⟨past, chars⟩
  rintro rfl
  rcases follows with ⟨token, s', isToken, _, wellFormed⟩
  have notBlank : isBlank letter = false := by
    rcases isLetter with rfl | rfl <;> decide
  rw [token_scan] at isToken
  simp only [ofSource, Reader.readWhile_eq, List.takeWhile_cons,
    List.dropWhile_cons, notBlank]
    at isToken
  exact wellFormed (isToken ▸ Scanned.lex_letter isLetter past)

variable {ext : List Char}

/-- A token stays where it is. -/
theorem Terminal.extend
    (stops : StopsAt unsigned ext)
    (terminal : Terminal mode s token s')
    (notEnd : token.kind ≠ .endOfInput)
    (follows : token.kind = .integer ∨ token.kind = .float → Follows s') :
    Terminal mode (s.extend ext) token (s'.extend ext) := by
  rcases terminal with ⟨rfl, rfl, wellFormed⟩
  rw [token_scan] at notEnd wellFormed follows
  rw [source_scan] at follows
  generalize isStart : (CharSource.readWhile isBlank (ofSource s).source).2 = start
    at notEnd wellFormed follows
  have something : start.rest ≠ [] := by
    rcases start with ⟨past, _ | ⟨c, rest⟩⟩
    · exact absurd rfl notEnd
    · exact List.cons_ne_nil c rest
  have skips : (CharSource.readWhile isBlank (ofSource (s.extend ext)).source).2 =
      start.extend ext := by
    rw [← isStart]
    exact congrArg Prod.snd (Reader.readWhile_extend ext (isStart ▸ something))
  have lexed := Scanned.lex_extend stops wellFormed notEnd
    fun isNumber letter isLetter => (follows isNumber).ne_letter isLetter
  have isToken : ((ofSource (s.extend ext)).scan mode.flags).token =
      ((ofSource s).scan mode.flags).token := by
    rw [token_scan, token_scan, skips, isStart]
    dsimp only
    rw [lexed]
    rfl
  have isSource : ((ofSource (s.extend ext)).scan mode.flags).source =
      ((ofSource s).scan mode.flags).source.extend ext := by
    rw [source_scan, source_scan, skips, isStart, lexed]
  refine ⟨isToken, isSource, ?_⟩
  rw [token_scan, isStart]
  exact wellFormed

theorem Terminal.extend_of_kind
    {kind : TokenKind}
    (stops : StopsAt unsigned ext)
    (terminal : Terminal mode s token s')
    (isKind : token.kind = kind)
    (known : kind ≠ .endOfInput ∧ kind ≠ .integer ∧ kind ≠ .float) :
    Terminal mode (s.extend ext) token (s'.extend ext) := by
  subst isKind
  refine terminal.extend stops known.1 ?_
  rintro (isInteger | isFloat)
  · exact absurd isInteger known.2.1
  · exact absurd isFloat known.2.2

theorem Literal.ne_endOfInput
    {value : Value}
    (isLiteral : Literal token value) :
    token.kind ≠ .endOfInput :=
  fun isEnd => isLiteral.not_closing (isEnd ▸ .endOfInput)

theorem Name.known
    {name : String}
    (isName : Name token name) :
    token.kind ≠ .endOfInput ∧ token.kind ≠ .integer ∧ token.kind ≠ .float := by
  rcases isName with isKind | isKind | ⟨isKeyword, _, _⟩
  · rw [isKind]
    decide
  · rw [isKind]
    decide
  · refine ⟨?_, ?_, ?_⟩ <;> intro isKind <;> rw [isKind] at isKeyword <;>
      cases isKeyword

theorem Negator.known
    {kind : TokenKind}
    {op : Op}
    (negator : Negator kind op) :
    kind ≠ .endOfInput ∧ kind ≠ .integer ∧ kind ≠ .float := by
  cases negator <;> decide

theorem Sign.known
    {kind : TokenKind}
    {op : Op}
    (isSign : Sign kind op) :
    kind ≠ .endOfInput ∧ kind ≠ .integer ∧ kind ≠ .float := by
  cases isSign <;> decide

theorem known_of_binary?
    {kind : TokenKind}
    {op : Op}
    (isBinary : binary? kind = some op) :
    kind ≠ .endOfInput ∧ kind ≠ .integer ∧ kind ≠ .float := by
  refine ⟨?_, ?_, ?_⟩ <;> rintro rfl <;> cases isBinary

/-- The first token of what is derived stays where it is. -/
theorem Derives.first_extend
    {symbol : Symbol}
    {yield : symbol.Yield}
    (stops : StopsAt unsigned ext)
    (derives : Derives symbol s yield s')
    (notIndices : symbol ≠ .indices)
    (follows : Follows s') :
    ∃ first s₁, Terminal .operand s first s₁ ∧
      Terminal .operand (s.extend ext) first (s₁.extend ext) := by
  induction derives with
  | plainTernary _ ih => exact ih nofun follows
  | conditional _ question _ _ _ _ _ ih => exact ih nofun ⟨_, _, question⟩
  | tighter _ _ ih => exact ih nofun follows
  | binary _ terminal _ _ _ ih => exact ih nofun ⟨_, _, terminal⟩
  | tightest _ ih => exact ih nofun follows
  | negation terminal negator =>
      exact ⟨_, _, terminal, terminal.extend_of_kind stops rfl negator.known⟩
  | plainSign _ _ _ ih => exact ih nofun follows
  | sign terminal isSign =>
      exact ⟨_, _, terminal, terminal.extend_of_kind stops rfl isSign.known⟩
  | defined terminal isDefined =>
      exact ⟨_, _, terminal, terminal.extend_of_kind stops isDefined (by decide)⟩
  | plainPrimary _ _ _ _ ih => exact ih nofun follows
  | existingParens opening isOpen =>
      exact ⟨_, _, opening, opening.extend_of_kind stops isOpen (by decide)⟩
  | existing terminal isName =>
      exact ⟨_, _, terminal, terminal.extend_of_kind stops rfl isName.known⟩
  | literal terminal isLiteral =>
      exact ⟨_, _, terminal,
        terminal.extend stops isLiteral.ne_endOfInput fun _ => follows⟩
  | parens opening isOpen =>
      exact ⟨_, _, opening, opening.extend_of_kind stops isOpen (by decide)⟩
  | emptyCall terminal isName =>
      exact ⟨_, _, terminal, terminal.extend_of_kind stops rfl isName.known⟩
  | call terminal isName =>
      exact ⟨_, _, terminal, terminal.extend_of_kind stops rfl isName.known⟩
  | «variable» terminal isName =>
      exact ⟨_, _, terminal, terminal.extend_of_kind stops rfl isName.known⟩
  | lastArgument _ closing _ ih => exact ih nofun ⟨_, _, closing⟩
  | argument _ comma _ _ ih => exact ih nofun ⟨_, _, comma⟩
  | noIndex => exact absurd rfl notIndices
  | index => exact absurd rfl notIndices

/-- What is derived in front of a token is derived in the same way if there is
more text behind. -/
theorem Derives.extend
    {symbol : Symbol}
    {yield : symbol.Yield}
    (stops : StopsAt unsigned ext)
    (derives : Derives symbol s yield s')
    (follows : Follows s') :
    Derives symbol (s.extend ext) yield (s'.extend ext) := by
  have guard : ∀ {symbol : Symbol} {yield : symbol.Yield} {s s' s₁ first},
      Derives symbol s yield s' → symbol ≠ .indices → Follows s' →
        Terminal .operand s first s₁ →
          Terminal .operand (s.extend ext) first (s₁.extend ext) := by
    intro symbol yield s s' s₁ first derives notIndices follows terminal
    rcases derives.first_extend stops notIndices follows with
      ⟨_, _, terminal', extended⟩
    rcases terminal.unique terminal' with ⟨rfl, rfl⟩
    exact extended
  induction derives with
  | plainTernary _ ih => exact .plainTernary (ih follows)
  | conditional _ question isQuestion _ colon isColon _ ih ihYes ihNo =>
      exact .conditional (ih ⟨_, _, question⟩)
        (question.extend_of_kind stops isQuestion (by decide)) isQuestion
        (ihYes ⟨_, _, colon⟩)
        (colon.extend_of_kind stops isColon (by decide)) isColon (ihNo follows)
  | tighter within _ ih => exact .tighter within (ih follows)
  | binary _ terminal isBinary ranked _ ih ihRight =>
      exact .binary (ih ⟨_, _, terminal⟩)
        (terminal.extend_of_kind stops rfl (known_of_binary? isBinary))
        isBinary ranked
        (ihRight follows)
  | tightest _ ih => exact .tightest (ih follows)
  | negation terminal negator _ ih =>
      exact .negation (terminal.extend_of_kind stops rfl negator.known)
        negator (ih follows)
  | plainSign terminal notNegator derives ih =>
      exact .plainSign (guard derives nofun follows terminal)
        notNegator (ih follows)
  | sign terminal isSign _ ih =>
      exact .sign (terminal.extend_of_kind stops rfl isSign.known)
        isSign (ih follows)
  | defined terminal isDefined _ ih =>
      exact .defined (terminal.extend_of_kind stops isDefined (by decide))
        isDefined (ih follows)
  | plainPrimary terminal notSign notDefined derives ih =>
      exact .plainPrimary (guard derives nofun follows terminal) notSign
        notDefined (ih follows)
  | existingParens opening isOpen _ closing isClose ih =>
      exact .existingParens
        (opening.extend_of_kind stops isOpen (by decide)) isOpen
        (ih ⟨_, _, closing⟩)
        (closing.extend_of_kind stops isClose (by decide)) isClose
  | existing terminal isName _ ih =>
      exact .existing (terminal.extend_of_kind stops rfl isName.known)
        isName (ih follows)
  | literal terminal isLiteral =>
      exact .literal
        (terminal.extend stops isLiteral.ne_endOfInput fun _ => follows) isLiteral
  | parens opening isOpen _ closing isClose ih =>
      exact .parens (opening.extend_of_kind stops isOpen (by decide)) isOpen
        (ih ⟨_, _, closing⟩)
        (closing.extend_of_kind stops isClose (by decide)) isClose
  | emptyCall terminal isName notLiteral opening isOpen closing isClose =>
      exact .emptyCall (terminal.extend_of_kind stops rfl isName.known)
        isName notLiteral (opening.extend_of_kind stops isOpen (by decide)) isOpen
        (closing.extend_of_kind stops isClose (by decide)) isClose
  | call terminal isName notLiteral opening isOpen _ ih =>
      exact .call (terminal.extend_of_kind stops rfl isName.known)
        isName notLiteral
        (opening.extend_of_kind stops isOpen (by decide)) isOpen (ih follows)
  | «variable» terminal isName notLiteral _ ih =>
      exact .variable (terminal.extend_of_kind stops rfl isName.known)
        isName notLiteral (ih follows)
  | lastArgument _ closing isClose ih =>
      exact .lastArgument (ih ⟨_, _, closing⟩)
        (closing.extend_of_kind stops isClose (by decide)) isClose
  | argument _ comma isComma _ ih ihOthers =>
      exact .argument (ih ⟨_, _, comma⟩)
        (comma.extend_of_kind stops isComma (by decide)) isComma (ihOthers follows)
  | noIndex => exact .noIndex
  | index opening isOpen _ closing isClose _ ih ihOthers =>
      exact .index (opening.extend_of_kind stops isOpen (by decide)) isOpen
        (ih ⟨_, _, closing⟩)
        (closing.extend_of_kind stops isClose (by decide)) isClose
        (ihOthers follows)

end Grammar

end Formula
