import Formula.Parse.Descent

/-!
# The equations of the parser

The parser carries the proof along that its feed gets no larger.  Without that
proof, each of its functions is a plain sequence of steps, and this module says
which.  Everything else that is said of the parser starts from these equations.
-/

namespace Formula.Parse

open TokenFeed

/-- What a step comes to: a yield or an error, and the rest of the feed. -/
abbrev Result (τ α : Type) :=
  Except Error α × τ

namespace Result

variable {τ α β : Type}

/-- A step after a step that yielded something. -/
def andThen (result : Result τ α) (next : α → τ → Result τ β) : Result τ β :=
  match result with
  | (.ok value, rest) => next value rest
  | (.error e, rest) => (.error e, rest)

@[simp]
theorem andThen_ok
    (value : α)
    (rest : τ)
    (next : α → τ → Result τ β) :
    andThen (.ok value, rest) next = next value rest :=
  rfl

@[simp]
theorem andThen_error
    (e : Error)
    (rest : τ)
    (next : α → τ → Result τ β) :
    andThen (.error e, rest) next = (.error e, rest) :=
  rfl

/-- Two steps yield something only if both of them do. -/
theorem andThen_eq_ok
    {result : Result τ α}
    {next : α → τ → Result τ β}
    {value : β}
    {last : τ}
    (done : andThen result next = (.ok value, last)) :
    ∃ first rest, result = (.ok first, rest) ∧
      next first rest = (.ok value, last) := by
  rcases result with ⟨e | first, rest⟩
  · cases done
  · exact ⟨first, rest, rfl, done⟩

end Result

open Result (andThen)

variable {τ : Type} [TokenFeed τ] {α β : Type} {n : Nat}

/-- The error of a malformed token. -/
def fault (feed : τ) : Error :=
  match failure feed with
  | some fault => .malformed fault
  | none => (token feed).unexpected .operand

/-- Reads the next token. -/
def reading (mode : Mode) (feed : τ) : Result τ Token :=
  let rest := advance mode feed
  (if (token rest).kind = .error then .error (fault rest)
    else .ok (token rest), rest)

/-- Reads a token that has to be of the given kind. -/
def expecting
    (kind : TokenKind)
    (expected : Expectation)
    (feed : τ) :
    Result τ Unit :=
  andThen (reading .operator feed) fun token rest =>
    if token.kind = kind then (.ok (), rest)
    else (.error (token.unexpected expected), rest)

/-- A reading without its bounds. -/
def plainReading : Reading τ n → Result τ Token
  | .token token rest _ _ _ => (.ok token, rest)
  | .error e rest => (.error e, rest)

theorem plainReading_of
    (mode : Mode)
    (feed : τ) :
    plainReading (Reading.of mode feed) = reading mode feed := by
  rw [Reading.of, reading]
  split
  · rw [fault]
    cases failure (advance mode feed) <;> rfl
  · rfl

theorem plain_bind
    (outcome : Outcome τ n α)
    (next : α → (rest : τ) → size rest ≤ n → Outcome τ n β)
    {plainNext : α → τ → Result τ β}
    (same : ∀ value rest le, (next value rest le).plain = plainNext value rest) :
    (outcome.bind next).plain = andThen outcome.plain plainNext := by
  cases outcome with
  | ok value rest le => exact same value rest le
  | error e rest => rfl

theorem plain_map
    (outcome : Outcome τ n α)
    (f : α → β) :
    (outcome.map f).plain =
      andThen outcome.plain fun value rest => (.ok (f value), rest) := by
  cases outcome <;> rfl

theorem plain_expect
    (kind : TokenKind)
    (expected : Expectation)
    (feed : τ) :
    (Outcome.expect kind expected feed).plain = expecting kind expected feed := by
  rw [Outcome.expect, expecting, ← plainReading_of]
  cases Reading.of Mode.operator feed with
  | error e rest => rfl
  | token token rest le lt back =>
      simp only [plainReading, Result.andThen_ok]
      split <;> rfl

/-! ## Bounds -/

/-- What a step leaves is within its bound. -/
theorem size_le_of_plain
    {outcome : Outcome τ n α}
    {value : α}
    {rest : τ}
    (done : outcome.plain = (.ok value, rest)) :
    size rest ≤ n := by
  cases outcome with
  | ok value' rest' le =>
      rcases Prod.mk.inj done with ⟨_, rfl⟩
      exact le
  | error e rest' => cases done

theorem size_le_of_expecting
    {kind : TokenKind}
    {expected : Expectation}
    {feed rest : τ}
    (done : expecting kind expected feed = (.ok (), rest)) :
    size rest ≤ size feed :=
  size_le_of_plain ((plain_expect kind expected feed).trans done)

variable {mode : Mode} {feed rest : τ} {token : Token}

theorem reading_eq_ok
    (read : reading mode feed = (.ok token, rest)) :
    rest = advance mode feed ∧ token = TokenFeed.token rest ∧
      token.kind ≠ .error := by
  rw [reading] at read
  rcases Prod.mk.inj read with ⟨found, rfl⟩
  split at found
  · cases found
  · rename_i wellFormed
    obtain rfl := Except.ok.inj found
    exact ⟨rfl, rfl, wellFormed⟩

/-- A well-formed token is read. -/
theorem reading_of_wellFormed
    (wellFormed : (TokenFeed.token (advance mode feed)).kind ≠ .error) :
    reading mode feed =
      (.ok (TokenFeed.token (advance mode feed)), advance mode feed) :=
  congrArg (·, advance mode feed) (if_neg wellFormed)

/-- A malformed token is an error. -/
theorem reading_of_malformed
    (malformed : (TokenFeed.token (advance mode feed)).kind = .error) :
    reading mode feed = (.error (fault (advance mode feed)), advance mode feed) :=
  congrArg (·, advance mode feed) (if_pos malformed)

theorem size_le_of_reading
    (read : reading mode feed = (.ok token, rest)) :
    size rest ≤ size feed := by
  rcases reading_eq_ok read with ⟨rfl, _, _⟩
  exact size_advance_le mode feed

theorem size_lt_of_reading
    (read : reading mode feed = (.ok token, rest))
    (notEnd : token.kind ≠ .endOfInput) :
    size rest < size feed := by
  rcases reading_eq_ok read with ⟨rfl, rfl, wellFormed⟩
  exact size_advance_lt mode feed notEnd wellFormed

theorem size_unget_le_of_reading
    (read : reading mode feed = (.ok token, rest)) :
    size (unget rest) ≤ size feed := by
  rcases reading_eq_ok read with ⟨rfl, rfl, wellFormed⟩
  exact size_unget_le mode feed wellFormed

/-! ## One equation for each function -/

theorem plain_conditional (feed : τ) :
    (conditional feed).plain =
      andThen (levels ladder feed).plain fun condition rest =>
        andThen (reading .operator rest) fun token after =>
          if token.kind = .question then
            andThen (conditional after).plain fun yes rest =>
              andThen (expecting .colon .colon rest) fun _ rest =>
                andThen (conditional rest).plain fun no rest =>
                  (.ok (Expr.conditional condition yes no), rest)
          else
            (.ok condition, unget after) := by
  rw [conditional]
  refine plain_bind _ _ fun condition rest le => ?_
  rw [← plainReading_of]
  cases Reading.of Mode.operator rest with
  | error e rest => rfl
  | token token after le lt back =>
      simp only [plainReading, Result.andThen_ok]
      split
      · rw [Outcome.plain_weaken]
        refine plain_bind _ _ fun yes rest le => ?_
        rw [← plain_expect, ← Outcome.plain_weaken le]
        refine plain_bind _ _ fun _ rest le => ?_
        rw [plain_map, Outcome.plain_weaken]
      · rfl

theorem plain_levels_nil (feed : τ) :
    (levels [] feed).plain = (negation feed).plain := by
  rw [levels]

theorem plain_levels_cons
    (level : Level)
    (tighter : List Level)
    (feed : τ) :
    (levels (level :: tighter) feed).plain =
      andThen (levels tighter feed).plain fun left rest =>
        (chain level tighter left rest).plain := by
  rw [levels]
  refine plain_bind _ _ fun left rest le => ?_
  rw [Outcome.plain_weaken]

theorem plain_chain
    (level : Level)
    (tighter : List Level)
    (left : Expr)
    (feed : τ) :
    (chain level tighter left feed).plain =
      andThen (reading .operator feed) fun token rest =>
        match level.op? token.kind with
        | none => (.ok left, unget rest)
        | some op =>
          andThen (levels tighter rest).plain fun right rest =>
            (chain level tighter (Expr.binary op left right) rest).plain := by
  rw [chain, ← plainReading_of]
  cases Reading.of Mode.operator feed with
  | error e rest => rfl
  | token token rest le lt back =>
      simp only [plainReading, Result.andThen_ok]
      split <;> rename_i found
      · simp only [found, Outcome.plain]
      · simp only [Outcome.plain_weaken, found]
        refine plain_bind _ _ fun right rest le => ?_
        rw [Outcome.plain_weaken]

theorem plain_negation (feed : τ) :
    (negation feed).plain =
      andThen (reading .operand feed) fun token rest =>
        match negation? token.kind with
        | some op =>
          andThen (negation rest).plain fun operand rest =>
            (.ok (Expr.unary op operand), rest)
        | none => (prefixed (unget rest)).plain := by
  rw [negation, ← plainReading_of]
  cases Reading.of Mode.operand feed with
  | error e rest => rfl
  | token token rest le lt back =>
      simp only [plainReading, Result.andThen_ok]
      split <;> rename_i found
      · simp only [plain_map, Outcome.plain_weaken, found]
      · simp only [Outcome.plain_weaken, found]

theorem plain_prefixed (feed : τ) :
    (prefixed feed).plain =
      andThen (reading .operand feed) fun token rest =>
        match prefixOp? token.kind with
        | some op =>
          andThen (prefixed rest).plain fun operand rest =>
            (.ok (Expr.unary op operand), rest)
        | none =>
          if token.kind = .defined then
            andThen (existing rest).plain fun operand rest =>
              (.ok (Expr.unary .defined operand), rest)
          else
            (primary (unget rest)).plain := by
  rw [prefixed, ← plainReading_of]
  cases Reading.of Mode.operand feed with
  | error e rest => rfl
  | token token rest le lt back =>
      simp only [plainReading, Result.andThen_ok]
      split <;> rename_i found
      · simp only [plain_map, Outcome.plain_weaken, found]
      · simp only [found]
        split
        · rw [plain_map, Outcome.plain_weaken]
        · rw [Outcome.plain_weaken]

theorem plain_existing (feed : τ) :
    (existing feed).plain =
      andThen (reading .operand feed) fun token rest =>
        if token.kind = .openParen then
          andThen (existing rest).plain fun expr rest =>
            andThen (expecting .closeParen .closeParen rest) fun _ rest =>
              (.ok expr, rest)
        else
          match token.name? with
          | some name =>
            andThen (indices rest).plain fun indices rest =>
              (.ok (Expr.var name indices), rest)
          | none => (.error (token.unexpected .identifier), rest) := by
  rw [existing, ← plainReading_of]
  cases Reading.of Mode.operand feed with
  | error e rest => rfl
  | token token rest le lt back =>
      simp only [plainReading, Result.andThen_ok]
      split
      · rw [Outcome.plain_weaken]
        refine plain_bind _ _ fun expr rest le => ?_
        rw [plain_map, Outcome.plain_weaken, plain_expect]
      · cases token.name? with
        | some name => simp only [plain_map, Outcome.plain_weaken]
        | none => rfl

theorem plain_primary (feed : τ) :
    (primary feed).plain =
      andThen (reading .operand feed) fun token rest =>
        match constant? token with
        | some value => (.ok (.literal value), rest)
        | none =>
          if token.kind = .openParen then
            andThen (conditional rest).plain fun expr rest =>
              andThen (expecting .closeParen .closeParen rest) fun _ rest =>
                (.ok expr, rest)
          else
            match token.name? with
            | some name => (named name rest).plain
            | none => (.error (token.unexpected .operand), rest) := by
  rw [primary, ← plainReading_of]
  cases Reading.of Mode.operand feed with
  | error e rest => rfl
  | token token rest le lt back =>
      simp only [plainReading, Result.andThen_ok]
      cases constant? token with
      | some value => rfl
      | none =>
          dsimp only
          split
          · rw [Outcome.plain_weaken]
            refine plain_bind _ _ fun expr rest le => ?_
            rw [plain_map, Outcome.plain_weaken, plain_expect]
          · cases token.name? with
            | some name => simp only [Outcome.plain_weaken]
            | none => rfl

theorem plain_named
    (name : String)
    (feed : τ) :
    (named name feed).plain =
      andThen (reading .operator feed) fun token rest =>
        if token.kind = .openParen then
          andThen (reading .operand rest) fun token last =>
            if token.kind = .closeParen then (.ok (.call name []), last)
            else
              andThen (arguments (unget last)).plain fun arguments rest =>
                (.ok (Expr.call name arguments), rest)
        else
          andThen (indices (unget rest)).plain fun indices rest =>
            (.ok (Expr.var name indices), rest) := by
  rw [named, ← plainReading_of]
  cases Reading.of Mode.operator feed with
  | error e rest => rfl
  | token token rest le lt back =>
      simp only [plainReading, Result.andThen_ok]
      split
      · rw [Outcome.plain_weaken, ← plainReading_of]
        cases Reading.of Mode.operand rest with
        | error e rest => rfl
        | token token last le lt back =>
            simp only [plainReading, Result.andThen_ok]
            split
            · rfl
            · rw [plain_map, Outcome.plain_weaken]
      · rw [plain_map, Outcome.plain_weaken]

theorem plain_arguments (feed : τ) :
    (arguments feed).plain =
      andThen (conditional feed).plain fun argument rest =>
        andThen (reading .operator rest) fun token after =>
          if token.kind = .comma then
            andThen (arguments after).plain fun others rest =>
              (.ok (argument :: others), rest)
          else if token.kind = .closeParen then (.ok [argument], after)
          else (.error (token.unexpected .closeParen), after) := by
  rw [arguments]
  refine plain_bind _ _ fun argument rest le => ?_
  rw [← plainReading_of]
  cases Reading.of Mode.operator rest with
  | error e rest => rfl
  | token token after le lt back =>
      simp only [plainReading, Result.andThen_ok]
      split
      · rw [plain_map, Outcome.plain_weaken]
      · split <;> rfl

theorem plain_indices (feed : τ) :
    (indices feed).plain =
      andThen (reading .operator feed) fun token rest =>
        if token.kind = .openBracket then
          andThen (conditional rest).plain fun index rest =>
            andThen (expecting .closeBracket .closeBracket rest) fun _ rest =>
              andThen (indices rest).plain fun others rest =>
                (.ok (index :: others), rest)
        else
          (.ok [], unget rest) := by
  rw [indices, ← plainReading_of]
  cases Reading.of Mode.operator feed with
  | error e rest => rfl
  | token token rest le lt back =>
      simp only [plainReading, Result.andThen_ok]
      split
      · rw [Outcome.plain_weaken]
        refine plain_bind _ _ fun index rest le => ?_
        rw [← plain_expect, ← Outcome.plain_weaken le]
        refine plain_bind _ _ fun _ rest le => ?_
        rw [plain_map, Outcome.plain_weaken]
      · rfl

theorem plain_others
    (multiple : Bool)
    (feed : τ) :
    (others multiple feed).plain =
      andThen (reading .operator feed) fun token rest =>
        if token.kind = .endOfInput then (.ok [], rest)
        else if token.kind = .semicolon ∧ multiple then
          andThen (reading .operand rest) fun token last =>
            if token.kind = .endOfInput then (.ok [], last)
            else
              andThen (conditional (unget last)).plain fun expr rest =>
                andThen (others multiple rest).plain fun more rest =>
                  (.ok (expr :: more), rest)
        else (.error (token.unexpected .endOfExpression), rest) := by
  rw [others, ← plainReading_of]
  cases Reading.of Mode.operator feed with
  | error e rest => rfl
  | token token rest le lt back =>
      simp only [plainReading, Result.andThen_ok]
      split
      · rfl
      split
      · rw [Outcome.plain_weaken, ← plainReading_of]
        cases Reading.of Mode.operand rest with
        | error e rest => rfl
        | token token last le lt back =>
            simp only [plainReading, Result.andThen_ok]
            split
            · rfl
            · rw [← Outcome.plain_weaken back (conditional (unget last))]
              refine plain_bind _ _ fun expr rest le => ?_
              rw [plain_map, Outcome.plain_weaken]
      · rfl

/-! ## What can be parsed -/

theorem expression_eq (feed : τ) : expression feed = (conditional feed).plain :=
  rfl

theorem wholeExpression_eq (feed : τ) :
    wholeExpression feed =
      andThen (expression feed) fun expr rest =>
        andThen (expecting .endOfInput .endOfExpression rest) fun _ rest =>
          (.ok expr, rest) := by
  rw [wholeExpression, expression]
  refine plain_bind _ _ fun expr rest le => ?_
  rw [plain_map, Outcome.plain_weaken, plain_expect]

theorem expressions_eq
    (multiple : Bool)
    (feed : τ) :
    expressions multiple feed =
      andThen (expression feed) fun expr rest =>
        andThen (others multiple rest).plain fun more rest =>
          (.ok (expr :: more), rest) := by
  rw [expressions, expression]
  refine plain_bind _ _ fun expr rest le => ?_
  rw [plain_map, Outcome.plain_weaken]

end Formula.Parse
