import Formula.Proofs.Grammar.Members

/-!
# Texts that are single literals

A text spells a value by itself, or it is parsed as an expression that is this
literal.  For numbers and truth values this is the same, unless there are
parentheses: the two readers differ in the options they read tokens with, but
neither the first token nor the end of the input depends on these.
-/

namespace Formula

open Text

/-! ## Options that do not matter -/

namespace Scanned

variable {σ : Type} [CharSource σ]

/-- Whether words may be names matters for words that are not reserved, and for
nothing else. -/
theorem lex_barewords
    (flags : Flags)
    (s : σ) :
    lex { flags with barewords := true } s =
        lex { flags with barewords := false } s ∨
      (lex { flags with barewords := true } s).kind = .bareword ∧
        (lex { flags with barewords := false } s).kind = .error := by
  have words : ∀ (c : Char) (s : σ),
      word { flags with barewords := true } c s =
          word { flags with barewords := false } c s ∨
        (word { flags with barewords := true } c s).kind = .bareword ∧
          (word { flags with barewords := false } c s).kind = .error := by
    intro c s
    rw [word, word]
    dsimp only
    split
    · exact .inl rfl
    split
    · exact .inl rfl
    · exact .inr ⟨rfl, rfl⟩
  rw [lex, lex]
  split
  · exact .inl rfl
  split
  · exact .inl rfl
  split
  · exact .inl rfl
  split
  · exact .inl rfl
  split
  · exact .inl rfl
  split
  · exact .inl rfl
  split
  · exact words _ _
  · exact .inl rfl

end Scanned

namespace Tokenizer

variable {σ : Type} [CharSource σ]

/-- In front of an operand, a token that is neither a name nor malformed is the
same whether words may be names or not. -/
theorem scan_operand
    (tokenizer : Tokenizer σ) :
    tokenizer.scan .operand = tokenizer.scan { get := true } ∨
      (tokenizer.scan .operand).token.kind = .bareword ∧
        (tokenizer.scan { get := true }).token.kind = .error := by
  rcases Scanned.lex_barewords { get := true }
    (CharSource.readWhile isBlank tokenizer.source).2 with
      same | ⟨isName, isMalformed⟩
  · have same' :
        Scanned.lex .operand (CharSource.readWhile isBlank tokenizer.source).2 =
          Scanned.lex { get := true }
            (CharSource.readWhile isBlank tokenizer.source).2 := same
    exact .inl (by rw [scan, scan, same'])
  · refine .inr ⟨?_, ?_⟩
    · rw [token_scan]
      exact isName
    · rw [token_scan]
      exact isMalformed

end Tokenizer

/-! ## Literals -/

namespace Value

/-- The kinds of values that a text can spell by itself. -/
def IsScalar (value : Value) : Prop :=
  value.type = .int ∨ value.type = .float ∨ value.type = .bool

theorem isScalar_of_literalValue?
    {token : Token}
    {value : Value}
    (spelled : token.literalValue? = some value) :
    value.IsScalar := by
  rw [Token.literalValue?] at spelled
  split at spelled
  case h_1 | h_2 =>
    rcases Option.map_eq_some_iff.mp spelled with ⟨n | x, _, rfl⟩
    · exact .inl rfl
    · exact .inr (.inl rfl)
  case h_3 | h_4 =>
    cases spelled
    exact .inr (.inr rfl)
  case h_5 => cases spelled

end Value

namespace Grammar

open Parse

/-- Among numbers and truth values, a token spells what it is a literal of. -/
theorem literalValue?_eq_some_iff
    {token : Token}
    {value : Value} :
    token.literalValue? = some value ↔ Literal token value ∧ value.IsScalar := by
  constructor
  · intro spelled
    refine ⟨?_, Value.isScalar_of_literalValue? spelled⟩
    rw [← constant?_eq_some_iff, constant?]
    split
    case h_1 isKind | h_2 isKind | h_3 isKind =>
      rw [Token.literalValue?, isKind] at spelled
      cases spelled
    case h_4 => exact spelled
  · rintro ⟨isLiteral, isScalar⟩
    rw [← constant?_eq_some_iff, constant?] at isLiteral
    split at isLiteral
    case h_1 | h_2 | h_3 =>
      cases isLiteral
      rcases isScalar with isKind | isKind | isKind <;> cases isKind
    case h_4 => exact isLiteral

theorem kind_ne_error_of_literalValue?
    {token : Token}
    {value : Value}
    (spelled : token.literalValue? = some value) :
    token.kind ≠ .error := by
  intro malformed
  rw [Token.literalValue?, malformed] at spelled
  cases spelled

/-- Behind the first token of a text, only the end of the input is asked for. -/
theorem ofLiteral?_eq_some_iff
    (text : String)
    (value : Value) :
    Value.ofLiteral? text = some value ↔
      let first :=
        (Tokenizer.ofSource (Reader.ofList text.toList)).scan { get := true }
      first.token.literalValue? = some value ∧
        ∀ c ∈ first.source.rest, isBlank c := by
  have rewinding := Cursor.rewinding text
  have same :=
    (Tokenizer.alike_ofSource (Cursor.models_ofString text)).get rewinding
      { get := true }
  have same' := same.get rewinding { get := true }
  have first :
      (Tokenizer.ofSource (Reader.ofList text.toList)).get { get := true } =
        (Tokenizer.ofSource (Reader.ofList text.toList)).scan { get := true } :=
    rfl
  have unread :
      ((Tokenizer.ofSource (Reader.ofList text.toList)).scan
        { get := true }).pending = 0 :=
    Tokenizer.pending_scan _ _
  rw [Value.ofLiteral?, Option.bind_eq_bind, Option.bind_eq_some_iff]
  dsimp only
  rw [same.token_eq, same'.token_eq, first]
  constructor
  · rintro ⟨spelled, isSpelled, atEnd⟩
    rw [Tokenizer.get_eq_scan rfl unread
      (kind_ne_error_of_literalValue? isSpelled)] at atEnd
    split at atEnd
    case isTrue isEnd =>
      obtain rfl := Option.some.inj atEnd
      exact ⟨isSpelled, (Tokenizer.kind_scan_eq_endOfInput_iff _ _).mp isEnd⟩
    case isFalse => cases atEnd
  · rintro ⟨isSpelled, areBlank⟩
    refine ⟨value, isSpelled, ?_⟩
    rw [Tokenizer.get_eq_scan rfl unread
      (kind_ne_error_of_literalValue? isSpelled),
      if_pos ((Tokenizer.kind_scan_eq_endOfInput_iff _ _).mpr areBlank)]

/-- What spells a value by itself is a literal in front of blanks.  A token that
spells one is the same whether words may be names or not. -/
theorem ofLiteral?_eq_some_iff_terminal
    (text : String)
    (value : Value) :
    Value.ofLiteral? text = some value ↔
      ∃ token s', Terminal .operand (Reader.ofList text.toList) token s' ∧
        Literal token value ∧ value.IsScalar ∧ ∀ c ∈ s'.rest, isBlank c := by
  rw [ofLiteral?_eq_some_iff]
  rcases Tokenizer.scan_operand
    (Tokenizer.ofSource (Reader.ofList text.toList)) with
    same | ⟨isName, isMalformed⟩
  · rw [← same]
    constructor
    · rintro ⟨isSpelled, areBlank⟩
      rcases literalValue?_eq_some_iff.mp isSpelled with ⟨isLiteral, isScalar⟩
      exact ⟨_, _, ⟨rfl, rfl, kind_ne_error_of_literalValue? isSpelled⟩, isLiteral,
        isScalar, areBlank⟩
    · rintro ⟨_, _, ⟨rfl, rfl, _⟩, isLiteral, isScalar, areBlank⟩
      exact ⟨literalValue?_eq_some_iff.mpr ⟨isLiteral, isScalar⟩, areBlank⟩
  · constructor
    · rintro ⟨isSpelled, _⟩
      exact absurd isMalformed (kind_ne_error_of_literalValue? isSpelled)
    · rintro ⟨_, _, ⟨rfl, rfl, _⟩, isLiteral, isScalar, _⟩
      have isSpelled := literalValue?_eq_some_iff.mpr ⟨isLiteral, isScalar⟩
      rw [Token.literalValue?] at isSpelled
      rw [show ((Tokenizer.ofSource (Reader.ofList text.toList)).scan
        Mode.operand.flags).token.kind = .bareword from isName] at isSpelled
      cases isSpelled

/-! ## Literals as expressions -/

/-- What a symbol derives is a literal by itself. -/
def Symbol.IsLiteral (value : Value) : (symbol : Symbol) → symbol.Yield → Prop
  | .arguments, _ => False
  | .indices, _ => False
  | .ternary, t => t = .literal value
  | .binary _, t => t = .literal value
  | .negation, t => t = .literal value
  | .sign, t => t = .literal value
  | .existing, t => t = .literal value
  | .primary, t => t = .literal value

section

variable {s s' : Reader} {value : Value}

theorem Terminal.mem_openParen
    {mode : Mode}
    {token : Token}
    (terminal : Terminal mode s token s')
    (isOpen : token.kind = .openParen) :
    '(' ∈ s.rest := by
  rcases terminal.rest_of_mark .openParen isOpen with ⟨blanks, _, isRest⟩
  simp [isRest]

/-- A literal is derived from one token, or from an expression in parentheses. -/
theorem Derives.terminal_of_literal
    {symbol : Symbol}
    {yield : symbol.Yield}
    (derives : Derives symbol s yield s')
    (isLiteral : symbol.IsLiteral value yield) :
    (∃ token, Terminal .operand s token s' ∧ Literal token value) ∨
      '(' ∈ s.rest := by
  induction derives with
  | plainTernary _ ih => exact ih isLiteral
  | tighter _ _ ih => exact ih isLiteral
  | tightest _ ih => exact ih isLiteral
  | plainSign _ _ _ ih => exact ih isLiteral
  | plainPrimary _ _ _ _ ih => exact ih isLiteral
  | literal terminal isLiteral' =>
      obtain rfl := Expr.literal.inj isLiteral
      exact .inl ⟨_, terminal, isLiteral'⟩
  | parens opening isOpen => exact .inr (opening.mem_openParen isOpen)
  | existingParens opening isOpen => exact .inr (opening.mem_openParen isOpen)
  | conditional | binary | negation | sign | defined | existing | emptyCall | call
  | «variable»
  | lastArgument | argument | noIndex | index => cases isLiteral

/-- A literal is derived from its token. -/
theorem Terminal.ternary
    {token : Token}
    (terminal : Terminal .operand s token s')
    (isLiteral : Literal token value) :
    Derives .ternary s (.literal value) s' := by
  have plain := Plain.literal isLiteral
  have primary : Derives .primary s (.literal value) s' :=
    .literal terminal isLiteral
  have negation : Derives .negation s (.literal value) s' :=
    .plainSign terminal plain.notNegator
      (.plainPrimary terminal plain.notSign plain.notDefined primary)
  exact .plainTernary (.binary_of_negation 0 (Nat.zero_le ranks) negation)

/-- Without parentheses, the texts that spell a literal are those of one token. -/
theorem spells_literal_iff (noParen : '(' ∉ s.rest) :
    Spells s (.literal value) ↔
      ∃ token s', Terminal .operand s token s' ∧ Literal token value ∧
        ∀ c ∈ s'.rest, isBlank c := by
  constructor
  · rintro ⟨s₁, token, s₂, derives, terminal, isEnd⟩
    rcases derives.terminal_of_literal rfl with
      ⟨token', terminal', isLiteral⟩ | isMember
    · exact ⟨token', s₁, terminal', isLiteral, terminal.rest_of_endOfInput isEnd⟩
    · exact absurd isMember noParen
  · rintro ⟨token, ⟨past, rest⟩, terminal, isLiteral, areBlank⟩
    rcases exists_endOfInput .operator areBlank past with
      ⟨token', s₂, terminal', isEnd⟩
    exact ⟨_, token', s₂, terminal.ternary isLiteral, terminal', isEnd⟩

end

/-- Without parentheses, a text spells a number or a truth value by itself
exactly if it is parsed as an expression that is this literal. -/
theorem ofLiteral?_eq_some_iff_parsed
    {text : String}
    (noParen : '(' ∉ text.toList)
    {value : Value}
    (isScalar : value.type = .int ∨ value.type = .float ∨ value.type = .bool) :
    Value.ofLiteral? text = some value ↔
      (wholeExpression (Tokenizer.ofSource (Cursor.ofString text))).1 =
        .ok (.literal value) := by
  rw [wholeExpression_text, wholeExpression_eq_ok_iff, spells_literal_iff noParen,
    ofLiteral?_eq_some_iff_terminal]
  constructor
  · rintro ⟨token, s', terminal, isLiteral, _, areBlank⟩
    exact ⟨token, s', terminal, isLiteral, areBlank⟩
  · rintro ⟨token, s', terminal, isLiteral, areBlank⟩
    exact ⟨token, s', terminal, isLiteral, isScalar, areBlank⟩

/-- A signed number between blanks. -/
theorem ofLiteral?_eq_some_iff_parsed_signed :
    '(' ∉ " -0x1F ".toList ∧ (Value.int (-31)).type = .int ∧
      Value.ofLiteral? " -0x1F " = some (.int (-31)) ∧
        (wholeExpression (Tokenizer.ofSource (Cursor.ofString " -0x1F "))).1 =
          .ok (.literal (.int (-31))) := by
  have noParen : '(' ∉ " -0x1F ".toList := by decide
  have spelled : Value.ofLiteral? " -0x1F " = some (.int (-31)) := by
    rw [ofLiteral?_eq_some_iff]
    decide +kernel
  exact ⟨noParen, rfl, spelled,
    (ofLiteral?_eq_some_iff_parsed noParen (.inl rfl)).mp spelled⟩

end Grammar

end Formula
