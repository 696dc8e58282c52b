import Formula.Proofs.Grammar.Complete
import Formula.Proofs.Grammar.Operands
import Formula.Proofs.Token.Coverage
import Formula.Proofs.Token.Locality

/-!
# Derivations in front of a stop

What is derived from a piece of text is derived from the same piece anywhere
else, if the text goes on there in the same way, up to a stop.  Only the places
of its tokens change, of which no rule of the grammar speaks.
-/

namespace Formula

open Text

namespace Reader.Reads

variable {s s₁ s' : Reader} {piece more rest : List Char}

/-- There is one piece of text between two readers. -/
theorem unique
    {piece' : List Char}
    (reads : s.Reads piece s')
    (reads' : s.Reads piece' s') :
    piece = piece' :=
  List.append_cancel_right (reads.rest_eq.symm.trans reads'.rest_eq)

theorem exists_trans
    (first : ∃ piece, s.Reads piece s₁)
    (second : ∃ piece, s₁.Reads piece s') :
    ∃ piece, s.Reads piece s' := by
  rcases first with ⟨piece, reads⟩
  rcases second with ⟨piece', reads'⟩
  exact ⟨piece ++ piece', reads.trans reads'⟩

/-- A text that is in front behind a piece is also in front before it. -/
theorem rest_append
    (reads : s.Reads piece s')
    (isRest : s'.rest = more ++ rest) :
    s.rest = (piece ++ more) ++ rest := by
  rw [reads.rest_eq, isRest, List.append_assoc]

end Reader.Reads

namespace Grammar

open Reader.Reads (exists_trans)

/-! ## Tokens -/

/-- A token that is the same apart from its place. -/
def Moved (token token' : Token) : Prop :=
  ∃ place, token' = { token with place }

section

variable {token token' : Token}

theorem Moved.symm (moved : Moved token token') : Moved token' token := by
  rcases moved with ⟨place, rfl⟩
  exact ⟨token.place, rfl⟩

theorem Moved.kind_eq (moved : Moved token token') : token'.kind = token.kind := by
  rcases moved with ⟨place, rfl⟩
  rfl

theorem Moved.name
    {name : String}
    (moved : Moved token token')
    (isName : Name token name) :
    Name token' name := by
  rcases moved with ⟨place, rfl⟩
  cases isName with
  | identifier isKind => exact .identifier isKind
  | bareword isKind => exact .bareword isKind
  | keyword isKeyword first starts => exact .keyword isKeyword first starts

theorem Moved.literal
    {value : Value}
    (moved : Moved token token')
    (isLiteral : Literal token value) :
    Literal token' value := by
  rcases moved with ⟨place, rfl⟩
  cases isLiteral with
  | string isKind => exact .string isKind
  | null isKind => exact .null isKind
  | absent isKind => exact .absent isKind
  | true isKind => exact .true isKind
  | false isKind => exact .false isKind
  | int isKind spelled => exact .int isKind spelled
  | float isKind spelled => exact .float isKind spelled

theorem Moved.notLiteral
    (moved : Moved token token')
    (notLiteral : ∀ value, ¬ Literal token value)
    (value : Value) :
    ¬ Literal token' value :=
  fun isLiteral => notLiteral value (moved.symm.literal isLiteral)

end

theorem Lexeme.of_blanks
    {mode : Mode}
    {blanks piece rest : List Char}
    {meant : Token → Prop}
    (areBlank : ∀ c ∈ blanks, isBlank c)
    (lexeme : Lexeme mode piece rest meant) :
    Lexeme mode (blanks ++ piece) rest meant := by
  induction blanks with
  | nil => exact lexeme
  | cons c blanks ih =>
      rcases List.forall_mem_cons.mp areBlank with ⟨blank, areBlank⟩
      exact (ih areBlank).of_blank blank

/-! ## Moving -/

/-- There is a piece of text between two readers, which can be moved in front
of any text that is stopped. -/
def Movable
    (s s' : Reader)
    (spans : List Char → List Char → Prop) :
    Prop :=
  ∃ piece, s.Reads piece s' ∧ ∀ after, Stopped s'.rest after → spans piece after

section

variable {s s₁ s' : Reader}
variable {first second spans spans' : List Char → List Char → Prop}

theorem Movable.imp
    (movable : Movable s s' spans)
    (implies : ∀ piece rest, spans piece rest → spans' piece rest) :
    Movable s s' spans' := by
  rcases movable with ⟨piece, reads, moves⟩
  exact ⟨piece, reads, fun after stopped => implies _ _ (moves after stopped)⟩

theorem Movable.behind
    (movable : Movable s s₁ first)
    (movable' : Movable s₁ s' second) :
    Movable s s' (Behind first second) := by
  rcases movable with ⟨piece, reads, moves⟩
  rcases movable' with ⟨piece', reads', moves'⟩
  refine ⟨piece ++ piece', reads.trans reads', fun after stopped => ?_⟩
  have moved := moves (piece' ++ after) (reads'.rest_eq ▸ stopped.append piece')
  exact ⟨piece, piece', rfl, moved, moves' after stopped⟩

end

/-! ## Terminals -/

variable {mode : Mode} {s s' : Reader} {token : Token}

theorem Terminal.reads
    (terminal : Terminal mode s token s') :
    ∃ piece, s.Reads piece s' := by
  rcases Tokenizer.exists_piece_of_scan mode.flags (Tokenizer.ofSource s) with
    ⟨piece, reads, _⟩
  rw [terminal.source_eq] at reads
  exact ⟨piece.chars, reads⟩

/-- Behind blanks, a terminal is what the scanner finds. -/
theorem Terminal.exists_scanned (terminal : Terminal mode s token s') :
    ∃ blanks text, s.rest = blanks ++ text ∧ (∀ c ∈ blanks, isBlank c) ∧
      text[0]?.any isBlank = false ∧
      ∃ scanned, Scanned.lex mode.flags
        (⟨blanks.reverse ++ s.past, text⟩ : Reader) = scanned ∧
          scanned.source = s' ∧
          token.kind = scanned.kind ∧ token.text = String.ofList scanned.text ∧
            token.literal = scanned.literal := by
  rcases s with ⟨past, chars⟩
  rcases terminal with ⟨isToken, isSource, _⟩
  rw [Tokenizer.token_scan] at isToken
  rw [Tokenizer.source_scan] at isSource
  simp only [Tokenizer.ofSource, Reader.readWhile_eq] at isToken isSource
  refine ⟨chars.takeWhile isBlank, chars.dropWhile isBlank,
    List.takeWhile_append_dropWhile.symm, ?_, ?_, _, rfl, isSource, ?_, ?_, ?_⟩
  · exact fun c isMember => List.all_eq_true.mp List.all_takeWhile c isMember
  · have first := List.head?_dropWhile_not isBlank chars
    rw [← List.head?_eq_getElem?]
    cases front : (chars.dropWhile isBlank).head? with
    | none => rfl
    | some c =>
        rw [front] at first
        exact first
  · rw [← isToken]
  · rw [← isToken]
  · rw [← isToken]

/-- A token is the same in front of a text that is stopped. -/
theorem Terminal.movable
    (terminal : Terminal mode s token s')
    (notEnd : token.kind ≠ .endOfInput) :
    Movable s s' fun piece after => Lexeme mode piece after (Moved token) := by
  have wellFormed := terminal.wellFormed
  rcases terminal.exists_scanned with
    ⟨blanks, text, isText, areBlank, notBlank, scanned, lexed, isSource, isKind,
      spelled, isNumber⟩
  rcases Scanned.exists_lexeme mode.flags ⟨blanks.reverse ++ s.past, text⟩ with
    ⟨lexeme, reads, isEmpty, _⟩
  rw [lexed, isSource] at reads
  rw [lexed, ← isKind] at isEmpty
  rcases lexeme with _ | ⟨c, front⟩
  · exact absurd (isEmpty.mp rfl) notEnd
  have skipped : s.Reads blanks ⟨blanks.reverse ++ s.past, text⟩ := ⟨isText, rfl⟩
  refine ⟨blanks ++ c :: front, skipped.trans reads, fun after stopped => ?_⟩
  obtain rfl : text = c :: front ++ s'.rest := reads.rest_eq
  have outcome : scanned.outcome = .ok token.kind :=
    isKind ▸ Scanned.outcome_eq_of_kind (isKind ▸ wellFormed)
  have lexedThere :=
    Scanned.lex_stopped stopped (lexed ▸ outcome) (by rw [lexed, isSource])
  simp only [lexed, outcome] at lexedThere
  have lexeme : Lexeme mode (c :: front) after (Moved token) := by
    refine .of_lex notBlank lexedThere wellFormed fun place => ⟨place, ?_⟩
    rw [← spelled, ← isNumber]
  exact lexeme.of_blanks areBlank

/-- So is whatever it means, apart from its place. -/
theorem Terminal.moves
    {meant : Token → Prop}
    (terminal : Terminal mode s token s')
    (notEnd : token.kind ≠ .endOfInput)
    (implies : ∀ token', Moved token token' → meant token') :
    Movable s s' (Lexeme mode · · meant) :=
  (terminal.movable notEnd).imp fun _ _ lexeme => lexeme.imp implies

theorem Terminal.moves_kind
    {kind : TokenKind}
    (terminal : Terminal mode s token s')
    (isKind : token.kind = kind)
    (notEnd : kind ≠ .endOfInput) :
    Movable s s' (Lexeme mode · · (·.kind = kind)) :=
  terminal.moves (isKind ▸ notEnd) fun _ moved => moved.kind_eq.trans isKind

/-! ## Derivations -/

/-- What is derived is a piece of the text. -/
theorem Derives.reads
    {symbol : Symbol}
    {yield : symbol.Yield}
    (derives : Derives symbol s yield s') :
    ∃ piece, s.Reads piece s' := by
  induction derives with
  | plainTernary _ ih => exact ih
  | conditional _ question _ _ colon _ _ ih ihYes ihNo =>
      exact exists_trans ih (exists_trans question.reads
        (exists_trans ihYes (exists_trans colon.reads ihNo)))
  | tighter _ _ ih => exact ih
  | binary _ terminal _ _ _ ih ihRight =>
      exact exists_trans ih (exists_trans terminal.reads ihRight)
  | tightest _ ih => exact ih
  | negation terminal _ _ ih => exact exists_trans terminal.reads ih
  | plainSign _ _ _ ih => exact ih
  | sign terminal _ _ ih => exact exists_trans terminal.reads ih
  | defined terminal _ _ ih => exact exists_trans terminal.reads ih
  | plainPrimary _ _ _ _ ih => exact ih
  | existingParens opening _ _ closing _ ih =>
      exact exists_trans opening.reads (exists_trans ih closing.reads)
  | existing terminal _ _ ih => exact exists_trans terminal.reads ih
  | literal terminal _ => exact terminal.reads
  | parens opening _ _ closing _ ih =>
      exact exists_trans opening.reads (exists_trans ih closing.reads)
  | emptyCall terminal _ _ opening _ closing _ =>
      exact exists_trans terminal.reads (exists_trans opening.reads closing.reads)
  | call terminal _ _ opening _ _ ih =>
      exact exists_trans terminal.reads (exists_trans opening.reads ih)
  | «variable» terminal _ _ _ ih => exact exists_trans terminal.reads ih
  | lastArgument _ closing _ ih => exact exists_trans ih closing.reads
  | argument _ comma _ _ ih ihOthers =>
      exact exists_trans ih (exists_trans comma.reads ihOthers)
  | noIndex => exact ⟨[], .refl _⟩
  | index opening _ _ closing _ _ ih ihOthers =>
      exact exists_trans opening.reads
        (exists_trans ih (exists_trans closing.reads ihOthers))

/-- One token stands at a position in a mode. -/
theorem Terminal.unique
    {token' : Token}
    {s₁ s₂ : Reader}
    (terminal : Terminal mode s token s₁)
    (terminal' : Terminal mode s token' s₂) :
    token = token' ∧ s₁ = s₂ :=
  ⟨terminal.token_eq.symm.trans terminal'.token_eq,
    terminal.source_eq.symm.trans terminal'.source_eq⟩

/-- The first token of what is derived lies in its piece of the text. -/
theorem Derives.first_reads
    {symbol : Symbol}
    {yield : symbol.Yield}
    (derives : Derives symbol s yield s')
    (notIndices : symbol ≠ .indices)
    {first : Token}
    {s₁ : Reader}
    (terminal : Terminal .operand s first s₁) :
    ∃ piece, s₁.Reads piece s' := by
  have behind : ∀ {token s₂ s'}, Terminal .operand s token s₂ →
      (∃ piece, s₂.Reads piece s') →
      ∃ piece, s₁.Reads piece s' := by
    intro token s₂ s' terminal' reads
    rwa [(terminal.unique terminal').2]
  induction derives with
  | plainTernary _ ih => exact ih nofun terminal behind
  | conditional _ question _ yes colon _ no ih =>
      exact exists_trans (ih nofun terminal behind)
        (exists_trans question.reads
          (exists_trans yes.reads (exists_trans colon.reads no.reads)))
  | tighter _ _ ih => exact ih nofun terminal behind
  | binary _ operator _ _ right ih =>
      exact exists_trans (ih nofun terminal behind)
        (exists_trans operator.reads right.reads)
  | tightest _ ih => exact ih nofun terminal behind
  | negation token _ operand => exact behind token operand.reads
  | plainSign _ _ _ ih => exact ih nofun terminal behind
  | sign token _ operand => exact behind token operand.reads
  | defined token _ operand => exact behind token operand.reads
  | plainPrimary _ _ _ _ ih => exact ih nofun terminal behind
  | existingParens opening _ inner closing _ =>
      exact behind opening (exists_trans inner.reads closing.reads)
  | existing token _ indices => exact behind token indices.reads
  | literal token _ => exact behind token ⟨[], .refl _⟩
  | parens opening _ inner closing _ =>
      exact behind opening (exists_trans inner.reads closing.reads)
  | emptyCall token _ _ opening _ closing _ =>
      exact behind token (exists_trans opening.reads closing.reads)
  | call token _ _ opening _ arguments =>
      exact behind token (exists_trans opening.reads arguments.reads)
  | «variable» token _ _ indices => exact behind token indices.reads
  | lastArgument _ closing _ ih =>
      exact exists_trans (ih nofun terminal behind) closing.reads
  | argument _ comma _ others ih =>
      exact exists_trans (ih nofun terminal behind)
        (exists_trans comma.reads others.reads)
  | noIndex => exact absurd rfl notIndices
  | index => exact absurd rfl notIndices

/-- A guard speaks of the first token of what is derived, which moves with it. -/
theorem Derives.guarded
    {symbol : Symbol}
    {yield : symbol.Yield}
    {spans : List Char → List Char → Prop}
    (derives : Derives symbol s yield s')
    (notIndices : symbol ≠ .indices)
    {s₁ : Reader}
    (terminal : Terminal .operand s token s₁)
    (movable : Movable s s' spans) :
    Movable s s' fun piece after =>
      Begins (piece ++ after) (Moved token) ∧ spans piece after := by
  have notEnd : token.kind ≠ .endOfInput := by
    rcases derives.starts notIndices with ⟨token', s₂, terminal', notClosing⟩
    rw [(terminal.unique terminal').1]
    exact fun isEnd => notClosing (isEnd ▸ .endOfInput)
  rcases derives.first_reads notIndices terminal with ⟨others, readsOthers⟩
  rcases terminal.movable notEnd with ⟨front, reads, moves⟩
  rcases movable with ⟨piece, readsAll, movesAll⟩
  obtain rfl := readsAll.unique (reads.trans readsOthers)
  refine ⟨front ++ others, readsAll,
    fun after stopped => ⟨?_, movesAll after stopped⟩⟩
  have lexeme :=
    moves (others ++ after) (readsOthers.rest_eq ▸ stopped.append others)
  exact List.append_assoc .. ▸ lexeme.begins fun _ => id

/-- What is derived is derived in front of any text that is stopped. -/
theorem Derives.movable
    {symbol : Symbol}
    {yield : symbol.Yield}
    (derives : Derives symbol s yield s') :
    Movable s s' fun piece after => Spans symbol piece after yield := by
  have ends : ∀ {kind : TokenKind}, ¬ Closing kind → ¬ kind = .endOfInput :=
    fun notClosing isEnd => notClosing (isEnd ▸ .endOfInput)
  induction derives with
  | plainTernary _ ih =>
      exact ih.imp fun _ _ spans past => .plainTernary (spans past)
  | conditional _ question isQuestion _ colon isColon _ ih ihYes ihNo =>
      exact (ih.behind ((question.moves_kind isQuestion nofun).behind
        (ihYes.behind ((colon.moves_kind isColon nofun).behind ihNo)))).imp
          fun _ _ => Behind.conditional
  | tighter below _ ih =>
      exact ih.imp fun _ _ spans past => .tighter below (spans past)
  | binary _ terminal isBinary ranked _ ih ihRight =>
      refine (ih.behind ((terminal.moves (fun isEnd => ?_)
        fun _ moved => moved.kind_eq ▸ isBinary).behind ihRight)).imp
          fun _ _ => Behind.binary ranked
      rw [isEnd] at isBinary
      cases isBinary
  | tightest _ ih => exact ih.imp fun _ _ spans past => .tightest (spans past)
  | negation terminal negator _ ih =>
      exact ((terminal.moves (ends negator.not_closing)
        fun _ moved => moved.kind_eq ▸ negator).behind ih).imp fun _ _ =>
          Behind.negation
  | plainSign terminal notNegator derives ih =>
      refine (derives.guarded nofun terminal ih).imp ?_
      rintro piece after ⟨begins, spans⟩ past
      rcases begins past with ⟨_, _, terminal, moved⟩
      exact .plainSign terminal (moved.kind_eq ▸ notNegator) (spans past)
  | sign terminal isSign _ ih =>
      exact ((terminal.moves (ends isSign.not_closing)
        fun _ moved => moved.kind_eq ▸ isSign).behind ih).imp fun _ _ =>
          Behind.sign
  | defined terminal isDefined _ ih =>
      exact ((terminal.moves_kind isDefined nofun).behind ih).imp fun _ _ =>
        Behind.defined
  | plainPrimary terminal notSign notDefined derives ih =>
      refine (derives.guarded nofun terminal ih).imp ?_
      rintro piece after ⟨begins, spans⟩ past
      rcases begins past with ⟨_, _, terminal, moved⟩
      exact .plainPrimary terminal (moved.kind_eq ▸ notSign)
        (moved.kind_eq ▸ notDefined) (spans past)
  | existingParens opening isOpen _ closing isClose ih =>
      exact ((opening.moves_kind isOpen nofun).behind
        (ih.behind (closing.moves_kind isClose nofun))).imp fun _ _ =>
          Behind.existingParens
  | existing terminal isName _ ih =>
      exact ((terminal.moves (ends isName.not_closing)
        fun _ moved => moved.name isName).behind ih).imp fun _ _ => Behind.existing
  | literal terminal isLiteral =>
      exact (terminal.moves (ends isLiteral.not_closing)
        fun _ moved => moved.literal isLiteral).imp fun _ _ => Spans.literal
  | parens opening isOpen _ closing isClose ih =>
      exact ((opening.moves_kind isOpen nofun).behind
        (ih.behind (closing.moves_kind isClose nofun))).imp fun _ _ =>
          Behind.parens
  | emptyCall terminal isName notLiteral opening isOpen closing isClose =>
      exact ((terminal.moves (ends isName.not_closing)
        fun _ moved => ⟨moved.name isName, moved.notLiteral notLiteral⟩).behind
          ((opening.moves_kind isOpen nofun).behind
            (closing.moves_kind isClose nofun))).imp
            fun _ _ => Behind.emptyCall
  | call terminal isName notLiteral opening isOpen _ ih =>
      exact ((terminal.moves (ends isName.not_closing)
        fun _ moved => ⟨moved.name isName, moved.notLiteral notLiteral⟩).behind
          ((opening.moves_kind isOpen nofun).behind ih)).imp fun _ _ => Behind.call
  | «variable» terminal isName notLiteral _ ih =>
      exact ((terminal.moves (ends isName.not_closing)
        fun _ moved => ⟨moved.name isName, moved.notLiteral notLiteral⟩).behind
        ih).imp
          fun _ _ => Behind.variable
  | lastArgument _ closing isClose ih =>
      exact (ih.behind (closing.moves_kind isClose nofun)).imp fun _ _ =>
        Behind.lastArgument
  | argument _ comma isComma _ ih ihOthers =>
      exact (ih.behind ((comma.moves_kind isComma nofun).behind ihOthers)).imp
        fun _ _ => Behind.argument
  | @noIndex s => exact ⟨[], .refl s, fun _ _ => Spans.noIndex⟩
  | index opening isOpen _ closing isClose _ ih ihOthers =>
      exact ((opening.moves_kind isOpen nofun).behind
        (ih.behind ((closing.moves_kind isClose nofun).behind ihOthers))).imp
          fun _ _ => Behind.index

end Grammar

end Formula
