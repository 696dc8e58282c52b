import Formula.Proofs.Token.Consumed
import Formula.Proofs.Token.Simulation

/-!
# Tokens cover their text

Reading tokens one after the other, with any options, cuts a text into pieces:
blanks, and behind them the lexeme of a token.  Nothing is left out, every token
has the place where its lexeme starts, and the last one is the end of the input
or malformed.
-/

namespace Formula

open Text

/-- Blanks, and the lexeme behind them. -/
structure Piece where
  blanks : List Char
  lexeme : List Char

namespace Piece

/-- All characters of a piece. -/
def chars (piece : Piece) : List Char :=
  piece.blanks ++ piece.lexeme

end Piece

/-- How the text of a token comes from its lexeme.  Nothing is said of malformed
tokens. -/
def TokenKind.Spelled (kind : TokenKind) (lexeme text : List Char) : Prop :=
  match kind with
  | .error => True
  | .identifier => lexeme = ':' :: text
  | .string =>
    ∃ quote body, (quote = '\'' ∨ quote = '"') ∧ Quoted quote body text ∧
      lexeme = quote :: body ++ [quote]
  | _ => lexeme = text

/-- A piece between the text `before` and the text `behind` is that of a token. -/
structure Piece.Fits
    (piece : Piece)
    (before behind : List Char)
    (token : Token) :
    Prop where
  blanks_eq : piece.blanks = (piece.chars ++ behind).takeWhile isBlank
  lexeme_eq_nil_iff : piece.lexeme = [] ↔ token.kind = .endOfInput
  atEnd : token.kind = .endOfInput → behind = []
  spelled : token.kind.Spelled piece.lexeme token.text.toList
  line_eq : token.place.line = 1 + (before ++ piece.blanks).count '\n'
  column_eq : token.place.column =
    1 + ((before ++ piece.blanks).reverse.takeWhile (· ≠ '\n')).length

theorem Piece.Fits.areBlank
    {piece : Piece}
    {before behind : List Char}
    {token : Token}
    (fits : piece.Fits before behind token) :
    ∀ c ∈ piece.blanks, isBlank c := by
  rw [fits.blanks_eq]
  exact fun c isMember => List.all_eq_true.mp List.all_takeWhile c isMember

/-! ## Texts of tokens -/

theorem Formed.spelled
    {lexeme text : List Char}
    {kind : TokenKind}
    {literal : Option Numeral}
    (formed : Formed lexeme kind text literal) :
    kind.Spelled lexeme text := by
  have verbatim :
      ∀ kind : TokenKind, kind.isVerbatim → kind.Spelled text text := by
    intro kind isVerbatim
    cases kind <;> first | rfl | cases isVerbatim
  cases formed with
  | endOfInput => rfl
  | identifier _ => rfl
  | bareword _ => rfl
  | keyword _ reserved =>
      exact verbatim _
        (TokenKind.isVerbatim_of_isKeyword
          (TokenKind.isKeyword_of_mem_keywords _ reserved))
  | symbol isSymbol => exact verbatim _ (TokenKind.symbols_isVerbatim _ isSymbol)
  | string isQuote quoted => exact ⟨_, _, isQuote, quoted, rfl⟩
  | integer _ _ => rfl
  | float _ _ => rfl

/-! ## One token -/

namespace Tokenizer

/-- Reading a token takes a piece of the text. -/
theorem exists_piece_of_scan
    (flags : Flags)
    (tokenizer : Tokenizer Reader) :
    ∃ piece : Piece,
      tokenizer.source.Reads piece.chars (tokenizer.scan flags).source ∧
        piece.Fits tokenizer.source.past.reverse (tokenizer.scan flags).source.rest
          (tokenizer.scan flags).token := by
  rcases tokenizer with ⟨⟨past, rest⟩, _, _, _⟩
  have skipped := Reader.reads_readWhile isBlank ⟨past, rest⟩
  rw [source_scan, token_scan]
  rw [Reader.readWhile_eq] at skipped ⊢
  rcases
    Scanned.exists_lexeme flags
      ⟨(rest.takeWhile isBlank).reverse ++ past, rest.dropWhile isBlank⟩ with
    ⟨lexeme, reads, isEmpty, atEnd, formed⟩
  have all := skipped.trans reads
  refine ⟨⟨rest.takeWhile isBlank, lexeme⟩, all, ?_⟩
  have place : CharSource.place (⟨(rest.takeWhile isBlank).reverse ++ past,
      rest.dropWhile isBlank⟩ : Reader) = _ :=
    Place.behind_eq ((rest.takeWhile isBlank).reverse ++ past)
  constructor
  case blanks_eq => exact congrArg (List.takeWhile isBlank) all.rest_eq
  case lexeme_eq_nil_iff => exact isEmpty
  case atEnd => exact atEnd
  case spelled =>
      dsimp only
      rw [String.toList_ofList]
      by_cases malformed :
        (Scanned.lex flags (⟨(rest.takeWhile isBlank).reverse ++ past,
          rest.dropWhile isBlank⟩ : Reader)).kind = .error
      · rw [malformed]
        trivial
      · exact (formed malformed).spelled
  case line_eq =>
      dsimp only
      rw [place, List.count_append, List.count_append, List.count_reverse,
        List.count_reverse, Nat.add_comm (List.count '\n' past)]
  case column_eq =>
      dsimp only
      rw [place, List.reverse_append, List.reverse_reverse]

/-- The end of the input is read where only blanks are left, whatever the
options. -/
theorem kind_scan_eq_endOfInput_iff
    (flags : Flags)
    (tokenizer : Tokenizer Reader) :
    (tokenizer.scan flags).token.kind = .endOfInput ↔
      ∀ c ∈ tokenizer.source.rest, isBlank c := by
  rcases exists_piece_of_scan flags tokenizer with ⟨piece, reads, fits⟩
  rw [← fits.lexeme_eq_nil_iff]
  constructor
  · intro isEmpty
    have noMore := fits.atEnd (fits.lexeme_eq_nil_iff.mp isEmpty)
    rw [reads.rest_eq, noMore, List.append_nil, Piece.chars, isEmpty,
      List.append_nil]
    exact fits.areBlank
  · intro areBlank
    rw [reads.rest_eq] at areBlank
    have whole := @List.takeWhile_append_of_pos Char isBlank _ [] areBlank
    rw [List.append_nil, ← fits.blanks_eq, List.takeWhile_nil, List.append_nil,
      Piece.chars, List.append_assoc, List.self_eq_append_right,
      List.append_eq_nil_iff] at whole
    exact whole.1

/-! ## All tokens -/

/-- The tokenizer behind some calls, the first of which has the first options, and
so on. -/
def after {σ : Type} [CharSource σ]
    (flags : Nat → Flags) :
    Nat → Tokenizer σ → Tokenizer σ
  | 0, tokenizer => tokenizer
  | count + 1, tokenizer =>
    after (fun call => flags (call + 1)) count
      (tokenizer.get { flags 0 with get := true })

/-- Where nothing was put back and no token was malformed, the next one is read. -/
theorem get_eq_scan
    {σ : Type} [CharSource σ]
    {flags : Flags}
    {tokenizer : Tokenizer σ}
    (reads : flags.get = true)
    (nothingBack : tokenizer.pending = 0)
    (wellFormed : tokenizer.token.kind ≠ .error) :
    tokenizer.get flags = tokenizer.scan flags := by
  rcases get_cases reads tokenizer with
    ⟨pending, _⟩ | ⟨_, malformed, _⟩ | ⟨_, same⟩
  · exact absurd nothingBack pending
  · exact absurd malformed wellFormed
  · exact same

/-- The pieces are those of the tokens that a tokenizer reads from now on. -/
structure Covers
    (flags : Nat → Flags)
    (tokenizer : Tokenizer Reader)
    (pieces : List Piece) :
    Prop where
  reads : ∀ count, count ≤ pieces.length →
    tokenizer.source.Reads ((pieces.take count).flatMap Piece.chars)
      (tokenizer.after flags count).source
  fits : ∀ (call : Nat) (piece : Piece), pieces[call]? = some piece →
    piece.Fits (tokenizer.after flags call).source.past.reverse
      (tokenizer.after flags (call + 1)).source.rest
      (tokenizer.after flags (call + 1)).token
  ends : ∀ call, call < pieces.length →
    (((tokenizer.after flags (call + 1)).token.kind = .endOfInput ∨
        (tokenizer.after flags (call + 1)).token.kind = .error) ↔
      call + 1 = pieces.length)

section

variable {flags : Nat → Flags} {tokenizer : Tokenizer Reader} {piece : Piece}
variable {pieces : List Piece}

/-- A token that ends everything is covered by its own piece. -/
theorem Covers.last
    (reads : tokenizer.source.Reads piece.chars (tokenizer.after flags 1).source)
    (fits : piece.Fits tokenizer.source.past.reverse
      (tokenizer.after flags 1).source.rest (tokenizer.after flags 1).token)
    (ends : (tokenizer.after flags 1).token.kind = .endOfInput ∨
      (tokenizer.after flags 1).token.kind = .error) :
    tokenizer.Covers flags [piece] where
  reads := by
    intro count within
    rcases Nat.le_one_iff_eq_zero_or_eq_one.mp within with rfl | rfl
    · exact .refl _
    · simpa using reads
  fits := by
    intro call piece' found
    rcases call with _ | call
    · obtain rfl := Option.some.inj found
      exact fits
    · cases found
  ends := by
    intro call within
    obtain rfl := Nat.lt_one_iff.mp within
    exact ⟨fun _ => rfl, fun _ => ends⟩

/-- Any other token is covered by its piece in front of those of the tokens behind
it. -/
theorem Covers.cons
    (reads : tokenizer.source.Reads piece.chars (tokenizer.after flags 1).source)
    (fits : piece.Fits tokenizer.source.past.reverse
      (tokenizer.after flags 1).source.rest (tokenizer.after flags 1).token)
    (goesOn : ¬ ((tokenizer.after flags 1).token.kind = .endOfInput ∨
      (tokenizer.after flags 1).token.kind = .error))
    (nonempty : pieces ≠ [])
    (covers :
      (tokenizer.after flags 1).Covers (fun call => flags (call + 1)) pieces) :
    tokenizer.Covers flags (piece :: pieces) where
  reads := by
    intro count within
    cases count with
    | zero => exact .refl _
    | succ count =>
        rw [List.take_succ_cons, List.flatMap_cons]
        exact reads.trans (covers.reads count (Nat.le_of_succ_le_succ within))
  fits := by
    intro call piece' found
    cases call with
    | zero =>
        obtain rfl := Option.some.inj found
        exact fits
    | succ call => exact covers.fits call piece' found
  ends := by
    intro call within
    cases call with
    | zero =>
        refine ⟨fun ends => absurd ends goesOn, fun isLast => ?_⟩
        have isEmpty : pieces.length = 0 := (Nat.succ.inj isLast).symm
        exact absurd (List.length_eq_zero_iff.mp isEmpty) nonempty
    | succ call =>
        rw [List.length_cons, Nat.add_right_cancel_iff]
        exact covers.ends call (Nat.lt_of_succ_lt_succ within)

end

/-- The tokens of a reader cover what it has not read.  The induction is on its
length. -/
theorem exists_covers
    (flags : Nat → Flags)
    (tokenizer : Tokenizer Reader)
    (nothingBack : tokenizer.pending = 0)
    (wellFormed : tokenizer.token.kind ≠ .error) :
    ∃ pieces : List Piece, pieces ≠ [] ∧
      pieces.length ≤ tokenizer.source.rest.length + 1 ∧
      tokenizer.Covers flags pieces := by
  have next :
      tokenizer.after flags 1 = tokenizer.scan { flags 0 with get := true } :=
    get_eq_scan rfl nothingBack wellFormed
  rcases exists_piece_of_scan { flags 0 with get := true } tokenizer with
    ⟨piece, reads, fits⟩
  rw [← next] at reads fits
  by_cases ends : (tokenizer.after flags 1).token.kind = .endOfInput ∨
      (tokenizer.after flags 1).token.kind = .error
  · exact ⟨[piece], List.cons_ne_nil _ _, Nat.succ_le_succ (Nat.zero_le _),
      .last reads fits ends⟩
  · have shorter : (tokenizer.after flags 1).source.rest.length <
        tokenizer.source.rest.length := by
      have nonempty : 0 < piece.lexeme.length := by
        refine List.length_pos_iff.mpr fun isEmpty => ?_
        exact ends (.inl (fits.lexeme_eq_nil_iff.mp isEmpty))
      rw [reads.rest_eq, List.length_append, Piece.chars, List.length_append]
      omega
    have nothingBack' : (tokenizer.after flags 1).pending = 0 := by
      rw [next, pending_scan, nothingBack]
    rcases exists_covers (fun call => flags (call + 1))
      (tokenizer.after flags 1) nothingBack'
      (fun malformed => ends (.inr malformed)) with ⟨pieces, nonempty, few, covers⟩
    refine ⟨piece :: pieces, List.cons_ne_nil _ _, ?_,
      .cons reads fits ends nonempty covers⟩
    rw [List.length_cons]
    omega
termination_by tokenizer.source.rest.length

/-! ## Texts -/

theorem Alike.after
    {σ τ : Type} [CharSource σ] [CharSource τ]
    {alike : σ → τ → Prop}
    {left : Tokenizer σ}
    {right : Tokenizer τ}
    (rewinding : Rewinding alike)
    (flags : Nat → Flags)
    (count : Nat)
    (same : Alike alike left right) :
    Alike alike (left.after flags count) (right.after flags count) := by
  induction count generalizing flags left right with
  | zero => exact same
  | succ count ih => exact ih _ (same.get rewinding _)

end Tokenizer

/-- Reading tokens with any options comes to the end of the text or to a malformed
token after at most one call more than there are characters.  Up to there the text
is cut into pieces, one for each call, without anything left out or added. -/
theorem Tokenizer.exists_pieces
    (text : String)
    (flags : Nat → Flags) :
    ∃ pieces : List Piece, pieces ≠ [] ∧ pieces.length ≤ text.length + 1 ∧
      ∀ (call : Nat) (piece : Piece), pieces[call]? = some piece →
        let before := (pieces.take call).flatMap Piece.chars
        let tokenizer := (ofSource (Cursor.ofString text)).after flags (call + 1)
        ∃ behind,
          text.toList = before ++ piece.chars ++ behind ∧
            tokenizer.source.rest = String.ofList behind ∧
            piece.Fits before behind tokenizer.token ∧
            ((tokenizer.token.kind = .endOfInput ∨ tokenizer.token.kind = .error) ↔
              call + 1 = pieces.length) := by
  let reader := ofSource (Reader.ofList text.toList)
  rcases exists_covers flags reader rfl nofun with ⟨pieces, nonempty, few, covers⟩
  refine ⟨pieces, nonempty, few, fun call piece found => ?_⟩
  have within : call < pieces.length := (List.getElem?_eq_some_iff.mp found).1
  have alike := (alike_ofSource (Cursor.models_ofString text)).after
    (Cursor.rewinding text) flags (call + 1)
  have readBefore := covers.reads call (Nat.le_of_lt within)
  have readAll := covers.reads (call + 1) within
  have fits := covers.fits call piece found
  have ends := covers.ends call within
  refine ⟨(reader.after flags (call + 1)).source.rest, ?_,
    alike.source.rest_eq, ?_, ?_⟩
  · have front : (pieces.take (call + 1)).flatMap Piece.chars =
        (pieces.take call).flatMap Piece.chars ++ piece.chars := by
      rw [List.take_add_one, found]
      simp
    rw [← front]
    exact readAll.rest_eq
  · have past : (reader.after flags call).source.past.reverse =
        (pieces.take call).flatMap Piece.chars := by
      rw [readBefore.past_eq]
      exact (List.append_nil _ ▸ List.reverse_reverse _)
    rw [alike.token_eq, ← past]
    exact fits
  · rw [alike.token_eq]
    exact ends

end Formula
