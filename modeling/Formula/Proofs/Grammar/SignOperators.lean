import Formula.Proofs.Grammar.Extended
import Formula.Proofs.Grammar.Members
import Formula.Proofs.Parse.Alignment
import Formula.Proofs.RoundTrip.Trees

/-!
# Signs behind an operand

Behind a complete expression, a plus or minus sign is an operator, whatever is
around it: no token of the expression swallows it, and the parser asks for it
where an operator may come.  So blanks on either side of it make no difference.

The induction is on the derivation of the expression, along the parts of it that
end where the expression ends.  Whatever is in front of them is found in the
longer texts as well.
-/

namespace Formula

open Text

namespace Parse

/-- The steps come to the same, but for places, and what they leave reads alike. -/
abbrev Meet {α : Type} (result result' : Result (Tokenizer Reader) α) : Prop :=
  Agree
    (fun left right =>
      Tokenizer.Aligned (left.get Mode.operator.flags)
        (right.get Mode.operator.flags))
    (fun _ _ => True) (fun e e' => e.unplaced = e'.unplaced) result result'

theorem Agree.andThen {τ υ α β : Type}
    {alike alike' stuck : τ → υ → Prop}
    {agree : Error → Error → Prop}
    {result : Result τ α}
    {result' : Result υ α}
    {next : α → τ → Result τ β}
    {next' : α → υ → Result υ β}
    (both : Agree alike stuck agree result result')
    (more : ∀ value s t, alike s t →
      Agree alike' stuck agree (next value s) (next' value t)) :
    Agree alike' stuck agree (Result.andThen result next)
      (Result.andThen result' next') := by
  cases both with
  | ok isAlike => exact more _ _ _ isAlike
  | error agreed halted => exact .error agreed halted

end Parse

namespace Grammar

open Parse Tokenizer

/-- Feeds that are at tokens that differ in their places only, in front of the
same text up to blanks, read alike. -/
theorem aligned_of_terminals
    {mode : Mode}
    {s s₁ s' s₁' : Reader}
    {token token' : Token}
    {left right : Tokenizer Reader}
    (terminal : Terminal mode s token s₁)
    (terminal' : Terminal mode s' token' s₁')
    (moved : Moved token token')
    (sameRest : s₁.rest.dropWhile isBlank = s₁'.rest.dropWhile isBlank)
    (stands : left.Stands mode s)
    (stands' : right.Stands mode s') :
    Aligned (left.get mode.flags) (right.get mode.flags) := by
  rw [Stands] at stands stands'
  rcases terminal with ⟨rfl, rfl, wellFormed⟩
  rcases terminal' with ⟨rfl, rfl, wellFormed'⟩
  rw [stands, stands']
  refine ⟨sameRest, moved, ?_, ?_⟩
  · rw [pending_scan, pending_scan]
    rfl
  · rw [failure_scan_ofSource wellFormed, failure_scan_ofSource wellFormed']

/-! ## A sign to come -/

/-- The sign as a token of its own. -/
def signToken (c : Char) : Token where
  kind := if c = '+' then .add else .sub
  text := String.ofList [c]

/-- A sign is a token of its own where an operator may come, and in front of no
digit. -/
theorem lexeme_sign
    {mode : Mode}
    {c : Char}
    (isSign : c = '+' ∨ c = '-')
    {blanks rest : List Char}
    (areBlank : ∀ d ∈ blanks, isBlank d)
    (isApart : mode = .operator ∨ rest[0]?.any isDecimal = false) :
    Lexeme mode (blanks ++ [c]) rest (Moved (signToken c)) := by
  refine Lexeme.of_blanks areBlank ?_
  have lexed : ∀ past, Scanned.lex mode.flags (⟨past, [c] ++ rest⟩ : Reader) =
      { outcome := .ok (signToken c).kind, text := [c],
        source := ⟨[c].reverse ++ past, rest⟩ } := by
    intro past
    have noNumber : Scanned.sign mode.flags c (⟨c :: past, rest⟩ : Reader) =
        Scanned.symbol c ⟨c :: past, rest⟩ := by
      rw [Scanned.sign, Reader.sees_eq]
      rcases isApart with rfl | isApart
      · rfl
      · cases mode <;> simp [isApart]
    rw [List.singleton_append, Scanned.lex_cons]
    rcases isSign with rfl | rfl
    · exact noNumber
    · exact noNumber
  refine .of_lex ?_ lexed ?_ fun place => ⟨place, rfl⟩
  · rcases isSign with rfl | rfl <;> rfl
  · rcases isSign with rfl | rfl <;> decide

/-- A sign has a rank below that of products. -/
theorem ends_sign
    {c : Char}
    (isSign : c = '+' ∨ c = '-')
    {token : Token}
    (moved : Moved (signToken c) token) :
    Ends 11 token.kind := by
  rw [moved.kind_eq]
  rcases isSign with rfl | rfl
  · have isBinary : binary? (signToken '+').kind = some .add := rfl
    exact Ends.operator isBinary rfl
  · have isBinary : binary? (signToken '-').kind = some .sub := rfl
    exact Ends.operator isBinary rfl

/-- Two texts that begin with the same sign, behind blanks, and go on in the
same way behind more blanks. -/
inductive SignAhead : List Char → List Char → Prop where
  | intro {c : Char} {blanks blanks' rest rest' : List Char} :
      c = '+' ∨ c = '-' → (∀ d ∈ blanks, isBlank d) → (∀ d ∈ blanks', isBlank d) →
        rest.dropWhile isBlank = rest'.dropWhile isBlank →
          SignAhead (blanks ++ c :: rest) (blanks' ++ c :: rest')

namespace SignAhead

variable {ext ext' : List Char} {s : Reader}

theorem symm (ahead : SignAhead ext ext') : SignAhead ext' ext := by
  cases ahead with
  | intro isSign areBlank areBlank' sameRest =>
      exact .intro isSign areBlank' areBlank sameRest.symm

theorem stops (ahead : SignAhead ext ext') : StopsAt unsigned ext := by
  cases ahead with
  | @intro c blanks blanks' rest rest' isSign areBlank =>
      cases blanks with
      | nil => exact stopsAt_sign isSign rest
      | cons d blanks => exact stopsAt_of_blank (areBlank d List.mem_cons_self) _

/-- Where the shorter text has nothing but blanks to come, the sign is the next
token. -/
theorem terminals
    (ahead : SignAhead ext ext')
    (atEnd : ∀ d ∈ s.rest, isBlank d) :
    ∃ token token' s₁ s₁', Terminal .operator (s.extend ext) token s₁ ∧
      Terminal .operator (s.extend ext') token' s₁' ∧ Moved token token' ∧
        s₁.rest.dropWhile isBlank = s₁'.rest.dropWhile isBlank ∧
        Ends 11 token.kind := by
  cases ahead with
  | @intro c blanks blanks' rest rest' isSign areBlank areBlank' sameRest =>
      have further : ∀ {blanks : List Char}, (∀ d ∈ blanks, isBlank d) →
          ∀ d ∈ s.rest ++ blanks, isBlank d := by
        intro blanks areBlank d isMember
        exact (List.mem_append.mp isMember).elim (atEnd d) (areBlank d)
      rcases lexeme_sign isSign (further areBlank) (.inl rfl) s.past with
        ⟨token, terminal, moved⟩
      rcases lexeme_sign isSign (further areBlank') (.inl rfl) s.past with
        ⟨token', terminal', moved'⟩
      simp only [List.append_assoc, List.singleton_append] at terminal terminal'
      have sameToken : Moved token token' := by
        rcases moved with ⟨place, rfl⟩
        rcases moved' with ⟨place', rfl⟩
        exact ⟨place', rfl⟩
      exact ⟨token, token', _, _, terminal, terminal', sameToken, sameRest,
        ends_sign isSign moved⟩

theorem followed
    (ahead : SignAhead ext ext')
    (atEnd : ∀ d ∈ s.rest, isBlank d) :
    Followed 11 (s.extend ext) := by
  rcases ahead.terminals atEnd with ⟨token, _, s₁, _, terminal, _, _, _, ends⟩
  exact ⟨token, s₁, terminal, ends⟩

theorem aligned
    (ahead : SignAhead ext ext')
    (atEnd : ∀ d ∈ s.rest, isBlank d)
    {left right : Tokenizer Reader}
    (stands : left.Stands .operator (s.extend ext))
    (stands' : right.Stands .operator (s.extend ext')) :
    Aligned (left.get Mode.operator.flags) (right.get Mode.operator.flags) := by
  rcases ahead.terminals atEnd with
    ⟨_, _, _, _, terminal, terminal', moved, sameRest, _⟩
  exact aligned_of_terminals terminal terminal' moved sameRest stands stands'

end SignAhead

/-! ## Along the end of an expression -/

variable {ext ext' : List Char}

/-- At the end of a text stands the end of the input. -/
theorem follows_of_atEnd
    {s : Reader}
    (atEnd : ∀ d ∈ s.rest, isBlank d) :
    Follows s := by
  rcases exists_endOfInput .operator atEnd s.past with ⟨token, s', terminal, _⟩
  exact ⟨token, s', terminal⟩

/-- Of what binds tighter than a sign, the parser finds all in both texts. -/
theorem meet_of_tight
    (ahead : SignAhead ext ext')
    {s s' : Reader}
    {t : Expr}
    (derives : Derives (.binary 11) s t s')
    (atEnd : ∀ d ∈ s'.rest, isBlank d)
    {left right : Tokenizer Reader}
    (stands : left.Stands .operand (s.extend ext))
    (stands' : right.Stands .operand (s.extend ext')) :
    Meet (levels (ladder.drop 11) left).plain
      (levels (ladder.drop 11) right).plain := by
  have follows := follows_of_atEnd atEnd
  rcases (complete (derives.extend ahead.stops follows)).found
    (ahead.followed atEnd) stands with ⟨left₁, reached, stands₁⟩
  rcases (complete (derives.extend ahead.symm.stops follows)).found
    (ahead.symm.followed atEnd) stands' with ⟨right₁, reached', stands₁'⟩
  rw [reached, reached']
  exact .ok (ahead.aligned atEnd stands₁ stands₁')

/-- Resuming a chain with the same operand comes to the same. -/
theorem meet_resume
    (ls : List Level)
    (operand : Expr)
    {left right : Tokenizer Reader}
    (aligned :
      Aligned (left.get Mode.operator.flags) (right.get Mode.operator.flags)) :
    Meet (resume ls operand left) (resume ls operand right) := by
  cases ls with
  | nil => exact .ok aligned
  | cons level tighter =>
      exact (alignedSimulation.chain_tracks level tighter operand left right).agree
        aligned id

/-- What the parser does in the two texts where the shorter one has a form that
reaches up to its end.  Forms that bind tighter than a sign are covered by
`meet_of_tight`. -/
def Meets (ext ext' : List Char) : (symbol : Symbol) → Reader → Reader → Prop
  | .ternary, s, s' =>
    (∀ d ∈ s'.rest, isBlank d) → ∀ left right : Tokenizer Reader,
      left.Stands .operand (s.extend ext) → right.Stands .operand (s.extend ext') →
        Meet (conditional left).plain (conditional right).plain
  | .binary rank, s, s' =>
    rank ≤ 11 → (∀ d ∈ s'.rest, isBlank d) → ∀ left right : Tokenizer Reader,
      left.Stands .operand (s.extend ext) → right.Stands .operand (s.extend ext') →
        Meet (levels (ladder.drop rank) left).plain
          (levels (ladder.drop rank) right).plain
  | _, _, _ => True

theorem Derives.meets
    (ahead : SignAhead ext ext')
    {symbol : Symbol}
    {s s' : Reader}
    {yield : symbol.Yield}
    (derives : Derives symbol s yield s') :
    Meets ext ext' symbol s s' := by
  induction derives with
  | plainTernary _ ih =>
      intro atEnd left right stands stands'
      rw [plain_conditional_eq, plain_conditional_eq]
      exact (ih (Nat.zero_le _) atEnd left right stands stands').andThen
        fun condition left₁ right₁ aligned =>
          (alignedSimulation.branching_tracks condition left₁ right₁).agree
            aligned id
  | conditional condition question isQuestion yes colon isColon _ _ _ ihNo =>
      intro atEnd left right stands stands'
      -- The sign is behind the second branch, so both texts
      -- have the rest by completeness.
      have reached : ∀ {ext} (feed : Tokenizer Reader), StopsAt unsigned ext →
          feed.Stands .operand (Reader.extend ext _) → _ :=
        fun {ext} feed stops stands =>
        (complete (condition.extend stops ⟨_, _, question⟩)).conditional_reached
          (question.extend_of_kind stops isQuestion (by decide)) isQuestion
          (complete (yes.extend stops ⟨_, _, colon⟩))
          (colon.extend_of_kind stops isColon (by decide)) isColon stands
      rcases reached left ahead.stops stands with ⟨left₁, reached₁, stands₁⟩
      rcases reached right ahead.symm.stops stands' with
        ⟨right₁, reached₁', stands₁'⟩
      rw [reached₁, reached₁']
      exact (ihNo atEnd left₁ right₁ stands₁ stands₁').andThen
        fun no _ _ aligned => .ok aligned
  | @tighter rank _ _ _ within derives ih =>
      intro le atEnd left right stands stands'
      -- The sign ends whatever binds tighter, and may go on with everything else.
      by_cases tight : rank = 11
      · subst tight
        exact meet_of_tight ahead (.tighter within derives) atEnd stands stands'
      · rw [Complete.levels_drop within, Complete.levels_drop within]
        exact (ih (by omega) atEnd left right stands stands').andThen
          fun operand _ _ aligned => meet_resume _ operand aligned
  | @binary rank _ _ _ _ _ _ _ _ derives terminal isBinary ranked further
      ih ihRight =>
      intro le atEnd left right stands stands'
      by_cases tight : rank = 11
      · subst tight
        exact meet_of_tight ahead
          (.binary derives terminal isBinary ranked further) atEnd stands stands'
      · have reached : ∀ {ext} (feed : Tokenizer Reader), StopsAt unsigned ext →
            feed.Stands .operand (Reader.extend ext _) → _ :=
          fun {ext} feed stops stands =>
          (complete (derives.extend stops ⟨_, _, terminal⟩)).binary_reached
            (terminal.extend_of_kind stops rfl (known_of_binary? isBinary))
            isBinary ranked stands
        rcases reached left ahead.stops stands with ⟨left₁, reached₁, stands₁⟩
        rcases reached right ahead.symm.stops stands' with
          ⟨right₁, reached₁', stands₁'⟩
        rw [reached₁, reached₁']
        exact (ihRight (by omega) atEnd left₁ right₁ stands₁ stands₁').andThen
          fun _ _ _ aligned => meet_resume _ _ aligned
  | tightest =>
      intro le
      exact absurd le (by decide)
  | _ => trivial

/-- Where the shorter text is an expression, the longer ones come to the same. -/
theorem meet_of_spells
    (ahead : SignAhead ext ext')
    {s : Reader}
    {t : Expr}
    (spells : Spells s t) :
    Meet (wholeExpression (ofSource (s.extend ext)))
      (wholeExpression (ofSource (s.extend ext'))) := by
  rcases spells with ⟨s₁, token, s₂, derives, terminal, isEnd⟩
  have atEnd := terminal.rest_of_endOfInput isEnd
  rw [wholeExpression_eq, wholeExpression_eq]
  refine Agree.andThen (derives.meets ahead atEnd _ _ (stands_ofSource .operand _)
    (stands_ofSource .operand _)) fun expr left right aligned => ?_
  have expected :=
    (alignedSimulation.expecting_tracks .endOfInput .endOfExpression
      left right).agree
    aligned id
  exact expected.andThen fun _ _ _ aligned => .ok (aligned .operator)

/--
Behind an accepted text, a plus or minus sign is an operator, however it is
spaced: what is around it may be no blanks or any, and the texts have the same
tree, or the same error but for its place.
-/
theorem sameOutcome_of_sign_behind
    {front behind : String}
    {tree : Expr}
    (accepted : (wholeExpression (ofSource (Cursor.ofString front))).1 = .ok tree)
    {c : Char}
    (isSign : c = '+' ∨ c = '-')
    {w₁ w₂ w₁' w₂' : String}
    (areBlank : ∀ w ∈ [w₁, w₂, w₁', w₂'], ∀ d ∈ w.toList, isBlank d) :
    SameOutcome
      (wholeExpression (ofSource
        (Cursor.ofString (front ++ w₁ ++ String.singleton c ++ w₂ ++ behind)))).1
      (wholeExpression (ofSource
        (Cursor.ofString
          (front ++ w₁' ++ String.singleton c ++ w₂' ++ behind)))).1 := by
  rw [wholeExpression_text] at accepted
  have sameRest : (w₂.toList ++ behind.toList).dropWhile isBlank =
      (w₂'.toList ++ behind.toList).dropWhile isBlank := by
    rw [List.dropWhile_append_of_pos (areBlank w₂ (by simp)),
      List.dropWhile_append_of_pos (areBlank w₂' (by simp))]
  have ahead : SignAhead (w₁.toList ++ c :: (w₂.toList ++ behind.toList))
      (w₁'.toList ++ c :: (w₂'.toList ++ behind.toList)) :=
    .intro isSign (areBlank w₁ (by simp)) (areBlank w₁' (by simp)) sameRest
  have same := sameOutcome_of_agree
    (meet_of_spells ahead (spells_of_wholeExpression accepted))
  rw [wholeExpression_text, wholeExpression_text]
  simpa [Reader.extend, Reader.ofList] using same

/-- Behind `:a ? 1 : 2`, a minus sign in front of a digit is an operator. -/
theorem sameOutcome_of_sign_behind_conditional :
    SameOutcome
      (wholeExpression (ofSource
        (Cursor.ofString
          (":a ? 1 : 2" ++ "" ++ String.singleton '-' ++ "" ++ "3")))).1
      (wholeExpression (ofSource
        (Cursor.ofString
          (":a ? 1 : 2" ++ "\n" ++ String.singleton '-' ++ " " ++ "3")))).1 := by
  have wellFormed : Expr.WellFormed
      (.conditional (.var "a" []) (.literal (.int 1)) (.literal (.int 2))) :=
    .conditional (.variable ⟨'a', [], rfl, rfl, nofun⟩ nofun)
      (.literal (Value.readable_of_ne_float nofun))
      (.literal (Value.readable_of_ne_float nofun))
  have written : Expr.written
      (.conditional (.var "a" []) (.literal (.int 1)) (.literal (.int 2))) =
        ":a ? 1 : 2" := by
    decide +kernel
  have spells := written ▸ wellFormed.spells
  have accepted :=
    (wholeExpression_text ":a ? 1 : 2").trans (wholeExpression_of_spells spells)
  exact sameOutcome_of_sign_behind accepted (.inr rfl) (by decide)

end Grammar

end Formula
