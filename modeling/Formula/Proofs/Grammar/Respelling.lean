import Formula.Expression
import Formula.Proofs.Grammar.Words
import Formula.Proofs.Parse.Alignment
import Formula.Proofs.RoundTrip.Trees

/-!
# Spellings of operators

Many operators can be written with a symbol or with a word, and some in
several ways.  Where a parsed text has an operator, any other token of its
kind can stand, if blanks set it off: the tokens in front of it end there as
before, the tokens behind it are found behind the blanks, and of the operator
itself nothing but its kind counts.
-/

namespace Formula.Grammar

open Text

variable {mode : Mode} {s s₁ s' t : Reader} {token : Token} {word : List Leaf}

/-! ## Spellings -/

/-- All ways to write a token that is no name and no literal of its own text. -/
def spellings : List (String × TokenKind) :=
  TokenKind.keywords ++ TokenKind.symbols

theorem scanned_of_mem_spellings :
    ∀ entry ∈ spellings, ∀ mode : Mode,
      (Scanned.lex mode.flags (⟨[], entry.1.toList⟩ : Reader)).outcome =
          .ok entry.2 ∧
        (Scanned.lex mode.flags (⟨[], entry.1.toList⟩ : Reader)).source.rest =
          [] := by
  intro entry isIn mode
  cases mode <;> revert entry
  · decide +kernel
  · decide +kernel

theorem starts_of_mem_spellings :
    ∀ entry ∈ spellings, entry.1.toList.head?.any isBlank = false ∧
      entry.1.toList ≠ [] ∧
        entry.2 ≠ .error := by
  decide +kernel

/-- Each spelling is a token of its kind, in front of what does not go on with
it. -/
theorem Lexeme.of_mem_spellings
    {spelling : String}
    {kind : TokenKind}
    (isSpelling : (spelling, kind) ∈ spellings)
    (mode : Mode)
    {rest : List Char}
    (stops : Stops rest) :
    Lexeme mode spelling.toList rest (·.kind = kind) := by
  rcases scanned_of_mem_spellings _ isSpelling mode with ⟨outcome, atEnd⟩
  rcases starts_of_mem_spellings _ isSpelling with ⟨notBlank, notEmpty, wellFormed⟩
  dsimp only at outcome atEnd notBlank notEmpty wellFormed
  generalize spelling.toList = chars at outcome atEnd notBlank notEmpty
  rcases chars with _ | ⟨c, front⟩
  · exact absurd rfl notEmpty
  have whole : c :: front ++ [] = c :: front := List.append_nil _
  have stopped : Stopped [] rest := ⟨[], [], rest, rfl, rfl, stops⟩
  have lexed :=
    Scanned.lex_stopped stopped (whole.symm ▸ outcome) (whole.symm ▸ atEnd)
  simp only [whole, outcome] at lexed
  exact .of_lex notBlank lexed wellFormed fun _ => rfl

/-- Each operator is written in one of these ways. -/
theorem mem_spellings_of_formed
    {lexeme text : List Char}
    {kind : TokenKind}
    {literal : Option Numeral}
    (formed : Formed lexeme kind text literal)
    (isKeyword : kind.isKeyword) :
    (String.ofList lexeme, kind) ∈ spellings := by
  cases formed with
  | keyword _ reserved => exact List.mem_append_left _ reserved
  | symbol isSymbol => exact List.mem_append_right _ isSymbol
  | _ => cases isKeyword

theorem Leaf.Applies.isKeyword
    {leaf : Leaf}
    {op : Op}
    (applies : leaf.Applies op) :
    leaf.kind.isKeyword := by
  cases applies with
  | @binary kind op isBinary => cases kind <;> simp [binary?] at isBinary <;> rfl
  | negation negator => cases negator <;> rfl
  | sign isSign => cases isSign <;> rfl
  | defined => rfl

/-! ## The text in front -/

/-- A token stands behind blanks, as it is written. -/
theorem Terminal.exists_formed (terminal : Terminal mode s token s') :
    ∃ blanks lexeme text literal, s.Reads (blanks ++ lexeme) s' ∧
      (∀ c ∈ blanks, isBlank c) ∧
        (lexeme = [] ↔ token.kind = .endOfInput) ∧
        Formed lexeme token.kind text literal := by
  have wellFormed := terminal.wellFormed
  rcases terminal.exists_scanned with
    ⟨blanks, rest, isRest, areBlank, _, scanned, rfl, isSource, isKind, _, _⟩
  rcases Scanned.exists_lexeme mode.flags ⟨blanks.reverse ++ s.past, rest⟩ with
    ⟨lexeme, reads, isEmpty, _, formed⟩
  have skipped : s.Reads blanks ⟨blanks.reverse ++ s.past, rest⟩ := ⟨isRest, rfl⟩
  rw [isSource] at reads
  rw [← isKind] at isEmpty formed
  exact ⟨blanks, lexeme, _, _, skipped.trans reads, areBlank, isEmpty,
    formed wellFormed⟩

/-- Tokens stand in front of a text that is stopped as they stood elsewhere. -/
theorem Chain.movable (chain : Chain s word s') :
    Movable s s' fun piece after =>
      ∀ past, Chain (⟨past, piece ++ after⟩ : Reader) word
        ⟨piece.reverse ++ past, after⟩ := by
  induction chain with
  | @nil s => exact ⟨[], .refl s, fun _ _ _ => .nil⟩
  | cons terminal fits notEnd _ ih =>
      refine ((terminal.movable notEnd).behind ih).imp ?_
      rintro piece after ⟨front, back, rfl, lexeme, chain⟩ past
      rcases lexeme past with ⟨token, terminal, moved⟩
      rw [List.append_assoc, List.reverse_append, List.append_assoc]
      exact .cons terminal (fits.of_moved moved) (moved.kind_eq ▸ notEnd) (chain _)

/-- Only without tokens is nothing read. -/
theorem Chain.eq_nil_of_reads
    (chain : Chain s word s')
    (reads : s.Reads [] s') :
    word = [] := by
  cases chain with
  | nil => rfl
  | cons terminal _ notEnd chain =>
      rcases terminal.exists_formed with
        ⟨blanks, lexeme, _, _, first, _, isEmpty, _⟩
      rcases chain.movable with ⟨piece, others, _⟩
      have nothing := reads.unique (first.trans others)
      simp only [List.nil_eq, List.append_eq_nil_iff] at nothing
      exact absurd (isEmpty.mp nothing.1.2) notEnd

/-- Between which positions a word stands is known from the first one. -/
theorem Chain.unique
    {s₂ : Reader}
    (chain : Chain s word s₁)
    (chain' : Chain s word s₂) :
    s₁ = s₂ := by
  induction chain with
  | nil =>
      cases chain'
      rfl
  | cons terminal _ _ _ ih =>
      rcases chain_cons_iff.mp chain' with ⟨_, _, terminal', _, _, chain'⟩
      obtain ⟨-, rfl⟩ := terminal.unique terminal'
      exact ih chain'

/-! ## The text behind -/

/-- A token stands behind other blanks as it stood behind these. -/
theorem Terminal.aligned
    (terminal : Terminal mode s token s')
    (sameRest : s.rest.dropWhile isBlank = t.rest.dropWhile isBlank) :
    ∃ token' t', Terminal mode t token' t' ∧ Moved token token' ∧
      s'.rest.dropWhile isBlank = t'.rest.dropWhile isBlank := by
  have aligned : Tokenizer.Aligned ((Tokenizer.ofSource s).scan mode.flags)
      ((Tokenizer.ofSource t).scan mode.flags) :=
    Tokenizer.aligned_scan mode.flags sameRest rfl rfl
  rcases terminal with ⟨rfl, rfl, wellFormed⟩
  exact ⟨_, _, ⟨rfl, rfl, aligned.moved.kind_eq ▸ wellFormed⟩, aligned.moved,
    aligned.rest_eq⟩

theorem Chain.aligned
    (chain : Chain s word s')
    (sameRest : s.rest.dropWhile isBlank = t.rest.dropWhile isBlank) :
    ∃ t', Chain t word t' ∧
      s'.rest.dropWhile isBlank = t'.rest.dropWhile isBlank := by
  induction chain generalizing t with
  | nil => exact ⟨t, .nil, sameRest⟩
  | cons terminal fits notEnd _ ih =>
      rcases terminal.aligned sameRest with
        ⟨token', t₁, terminal', moved, sameRest₁⟩
      rcases ih sameRest₁ with ⟨t', chain', sameRest'⟩
      exact ⟨t', .cons terminal' (fits.of_moved moved) (moved.kind_eq ▸ notEnd)
        chain', sameRest'⟩

/-! ## Other spellings -/

/-- A text around a token that is written in it behind blanks. -/
structure Site where
  before : List Char
  blanks : List Char
  written : String
  behind : List Char

namespace Site

/-- The text with another token instead, between other blanks. -/
def put
    (site : Site)
    (gap : List Char)
    (spelling : String)
    (gap' : List Char) :
    List Char :=
  site.before ++ gap ++ spelling.toList ++ gap' ++ site.behind

/-- The token is an operator of the text, behind some other tokens. -/
structure IsOperator
    (site : Site)
    (text : List Char)
    (front : List Leaf)
    (mode : Mode)
    (kind : TokenKind) :
    Prop where
  text_eq : text = site.put site.blanks site.written []
  areBlank : ∀ c ∈ site.blanks, isBlank c
  isSpelling : (site.written, kind) ∈ spellings
  inFront : ∃ rest, Chain (Reader.ofList text) front ⟨site.before.reverse, rest⟩ ∧
    ∃ token past, Terminal mode (⟨site.before.reverse, rest⟩ : Reader) token
      ⟨past, site.behind⟩

/-- Blanks set something off from what is in front of it and from what is behind
it, which may begin with one itself.  None are needed where nothing is in
front. -/
structure SetOff
    (site : Site)
    (gap gap' : List Char) :
    Prop where
  areBlank : ∀ c ∈ gap, isBlank c
  areBlank' : ∀ c ∈ gap', isBlank c
  before_eq_nil : gap = [] → site.before = []
  blank_behind : ∀ c, (gap' ++ site.behind)[0]? = some c → isBlank c

variable {site : Site} {gap gap' : List Char}

theorem SetOff.stops
    (setOff : site.SetOff gap gap') :
    Stops (gap' ++ site.behind) := by
  rcases behind : gap' ++ site.behind with _ | ⟨c, rest⟩
  · exact stops_nil
  · exact stops_of_blank (setOff.blank_behind c (behind ▸ rfl)) rest

theorem SetOff.dropWhile_behind (setOff : site.SetOff gap gap') :
    site.behind.dropWhile isBlank = (gap' ++ site.behind).dropWhile isBlank :=
  (List.dropWhile_append_of_pos setOff.areBlank').symm

end Site

section

variable {site : Site} {gap gap' text : List Char} {front back : List Leaf}
  {kind : TokenKind}

/-- Every operator among the tokens of a text stands somewhere in it. -/
theorem Chain.exists_site
    (chain : Chain (Reader.ofList text) (front ++ .operator mode kind :: back) s')
    (isKeyword : kind.isKeyword) :
    ∃ site : Site, site.IsOperator text front mode kind := by
  rcases chain_append_iff.mp chain with ⟨⟨past, rest⟩, inFront, operator⟩
  rcases chain_cons_iff.mp operator with ⟨token, ⟨past', behind⟩, terminal, rfl, _⟩
  rcases inFront.movable with ⟨before, reads, _⟩
  rcases terminal.exists_formed with
    ⟨blanks, lexeme, _, _, reads', areBlank, _, formed⟩
  obtain rfl : past = before.reverse := reads.past_eq.trans (List.append_nil _)
  refine ⟨⟨before, blanks, String.ofList lexeme, behind⟩, ?_, areBlank,
    mem_spellings_of_formed formed isKeyword, rest, inFront, token, past',
    terminal⟩
  have isText := reads.rest_append reads'.rest_eq
  simpa [Site.put, Reader.ofList] using isText

/-- Words at the front of a text stand there also in front of other blanks. -/
theorem Chain.before_gap
    {rest : List Char}
    (chain : Chain (Reader.ofList text) front ⟨site.before.reverse, rest⟩)
    (setOff : site.SetOff gap gap')
    (after : List Char) :
    Chain (Reader.ofList (site.before ++ (gap ++ after))) front
      ⟨site.before.reverse, gap ++ after⟩ := by
  rcases chain.movable with ⟨piece, reads, moves⟩
  have isPiece : piece = site.before :=
    List.reverse_injective (reads.past_eq.trans (List.append_nil _)).symm
  rcases gap with _ | ⟨c, gap⟩
  -- Without a gap nothing is in front, so that no token is
  -- there which could end elsewhere.
  · have isEmpty := setOff.before_eq_nil rfl
    obtain rfl := chain.eq_nil_of_reads (isEmpty ▸ isPiece ▸ reads)
    rw [isEmpty]
    exact .nil
  · have stopped : Stopped rest (c :: gap ++ after) :=
      ⟨[], _, _, rfl, rfl, stops_of_blank (setOff.areBlank c List.mem_cons_self) _⟩
    have moved := moves _ stopped []
    rwa [List.append_nil, isPiece] at moved

/-- The tokens are the same in a text where one operator is spelled in another
way. -/
theorem Chain.respelled
    (chain : Chain (Reader.ofList text) (front ++ .operator mode kind :: back) s')
    (isOperator : site.IsOperator text front mode kind)
    {spelling : String}
    (isSpelling : (spelling, kind) ∈ spellings)
    (setOff : site.SetOff gap gap') :
    ∃ t, Chain (Reader.ofList (site.put gap spelling gap'))
        (front ++ .operator mode kind :: back) t ∧
      s'.rest.dropWhile isBlank = t.rest.dropWhile isBlank := by
  rcases isOperator.inFront with ⟨rest, inFront, token, past, terminal⟩
  -- Tokens are read in one way only, so the chain
  -- passes the place of the operator.
  rcases chain_append_iff.mp chain with ⟨_, inFront', operator⟩
  obtain rfl := inFront.unique inFront'
  rcases chain_cons_iff.mp operator with ⟨_, _, terminal', isKind, notEnd, inBack⟩
  obtain ⟨rfl, rfl⟩ := terminal.unique terminal'
  have spelled := (Lexeme.of_mem_spellings isSpelling mode setOff.stops).of_blanks
    setOff.areBlank
  rcases spelled site.before.reverse with ⟨token', terminal', isKind'⟩
  rcases inBack.aligned (t := ⟨_, gap' ++ site.behind⟩)
    setOff.dropWhile_behind with
    ⟨t, inBack', sameRest⟩
  have operator' : Chain _ (.operator mode kind :: back) t :=
    .cons terminal' isKind' (isKind'.trans isKind.symm ▸ notEnd) inBack'
  rw [List.append_assoc] at operator'
  have inFront' :=
    inFront.before_gap setOff (spelling.toList ++ (gap' ++ site.behind))
  refine ⟨t, ?_, sameRest⟩
  simp only [Site.put, List.append_assoc]
  exact inFront'.append operator'

/-- A sentence stands in a text where one operator is spelled in another way. -/
theorem Reads.respelled
    {multiple : Bool}
    {ts : List Expr}
    (reads : Reads multiple (Reader.ofList text) ts
      (front ++ .operator mode kind :: back))
    (isOperator : site.IsOperator text front mode kind)
    {spelling : String}
    (isSpelling : (spelling, kind) ∈ spellings)
    (setOff : site.SetOff gap gap') :
    Reads multiple (Reader.ofList (site.put gap spelling gap')) ts
      (front ++ .operator mode kind :: back) := by
  rcases reads with ⟨mode', s₁, token, s₂, sentence, chain, terminal, isEnd⟩
  rcases chain.respelled isOperator isSpelling setOff with ⟨t, chain', sameRest⟩
  rcases terminal.aligned sameRest with ⟨token', t', terminal', moved, _⟩
  exact ⟨mode', t, token', t', sentence, chain', terminal',
    moved.kind_eq.trans isEnd⟩

end

end Formula.Grammar

namespace Formula.Expression

open Grammar

/-- A text is parsed as what its tokens are a sentence of. -/
theorem parse_eq_ok_iff_exists_reads
    {text : String}
    {multiple : Bool}
    {expression : Expression} :
    parse text multiple = .ok expression ↔
      ∃ word,
        Reads multiple (Reader.ofList text.toList) expression.exprs word := by
  rw [← expressions_eq_ok_iff_exists_reads, parse, parseSource,
    Parse.expressions_text]
  cases (Parse.expressions multiple
    (Tokenizer.ofSource (Reader.ofList text.toList))).1 with
  | error e => constructor <;> rintro ⟨⟩
  | ok ts => constructor <;> rintro ⟨⟩ <;> rfl

/--
Any operator of a text that is parsed can be spelled in another way, if it is set
off by blanks.  The tokens of the text are a sentence, in which operators are
known by their kinds only.  They are the operators of the trees, in the same
order, each stands at a place in the text, and with any other token of its kind
there, the text is parsed as before.
-/
theorem parse_respelled
    {text : String}
    {multiple : Bool}
    {expression : Expression}
    (parsed : parse text multiple = .ok expression) :
    (∃ word, Reads multiple (Reader.ofList text.toList) expression.exprs word) ∧
      ∀ word, Reads multiple (Reader.ofList text.toList) expression.exprs word →
        Applies word (Expr.operatorsOfList expression.exprs) ∧
          ∀ front mode kind back, word = front ++ .operator mode kind :: back →
            (∃ site : Site, site.IsOperator text.toList front mode kind) ∧
              ∀ site : Site, site.IsOperator text.toList front mode kind →
                ∀ spelling gap gap', (spelling, kind) ∈ spellings →
                  site.SetOff gap gap' →
                    parse (String.ofList (site.put gap spelling gap')) multiple =
                      .ok expression := by
  refine ⟨parse_eq_ok_iff_exists_reads.mp parsed, fun word reads => ?_⟩
  rcases id reads with ⟨_, _, _, _, sentence, chain, _⟩
  refine ⟨sentence.applies, ?_⟩
  rintro front mode kind back rfl
  rcases sentence.applies.exists_of_mem
    (List.mem_append_right _ List.mem_cons_self) with
    ⟨op, _, applies⟩
  refine ⟨chain.exists_site applies.isKeyword, ?_⟩
  intro site isOperator spelling gap gap' isSpelling setOff
  rw [parse_eq_ok_iff_exists_reads, String.toList_ofList]
  exact ⟨_, reads.respelled isOperator isSpelling setOff⟩

/-- In `:a or :b`, a symbol can stand for the word. -/
theorem parse_respelled_or :
    ∃ expression : Expression,
      parse ":a or :b" true = .ok expression ∧
        parse ":a || :b" true = .ok expression := by
  have named : ∀ c, Text.isNameFirst c → Text.IsName (String.ofList [c]) :=
    fun c starts => ⟨c, [], String.toList_ofList, starts, nofun⟩
  have a : (Expr.var "a" []).WellFormed := .variable (named 'a' rfl) nofun
  have b : (Expr.var "b" []).WellFormed := .variable (named 'b' rfl) nofun
  have written :
      (Expr.binary .or (.var "a" []) (.var "b" [])).written = ":a or :b" := by
    decide +kernel
  have parsed := written ▸ parse_written (.binary rfl a b)
  have spansLeft :
      Spans (.binary 0) [':', 'a'] [' ', 'o', 'r', ' ', ':', 'b'] (.var "a" []) :=
    (a.legible (Text.apart_cons _ rfl (by decide))).binary (by decide) (by decide)
  have isSpelling : ("or", TokenKind.or) ∈ spellings := by decide
  have lexeme : Lexeme .operator [' ', 'o', 'r'] [' ', ':', 'b'] (·.kind = .or) :=
    (Lexeme.of_mem_spellings isSpelling _ (Text.stops_of_blank rfl _)).of_blank rfl
  have spansRight : Spans (.binary 1) [' ', ':', 'b'] [] (.var "b" []) :=
    ((b.legible Text.apart_nil).binary (by decide) (by decide)).of_blank nofun rfl
  rcases (spansLeft []).exists_phrase with ⟨front, left, inFront⟩
  rcases lexeme _ with ⟨token, terminal, isOr⟩
  rcases (spansRight _).exists_phrase with ⟨back, right, inBack⟩
  rcases Lexeme.endOfInput _ with ⟨last, terminal', isEnd⟩
  have operator : Chain _ (.operator .operator .or :: back) _ :=
    .cons terminal isOr (isOr ▸ nofun) inBack
  have reads : Reads true (Reader.ofList ":a or :b".toList) _ _ :=
    ⟨_, _, last, _, .last (.plainTernary (.binary left rfl rfl right)),
      inFront.append operator, terminal', isEnd⟩
  have isOperator : Site.IsOperator ⟨[':', 'a'], [' '], "or", [' ', ':', 'b']⟩
      ":a or :b".toList front .operator .or :=
    ⟨by decide, by decide, isSpelling, _, inFront, token, _, terminal⟩
  have setOff : Site.SetOff ⟨[':', 'a'], [' '], "or", [' ', ':', 'b']⟩ [' '] [] :=
    ⟨by decide, nofun, nofun, fun | _, rfl => rfl⟩
  have isText : String.ofList
      (Site.put ⟨[':', 'a'], [' '], "or", [' ', ':', 'b']⟩ [' '] "||" []) =
        ":a || :b" := by
    decide
  have respelled := ((parse_respelled parsed).2 _ reads).2 front _ _ back rfl
  exact ⟨_, parsed, isText ▸ respelled.2 _ isOperator "||" _ _ (by decide) setOff⟩

end Formula.Expression
