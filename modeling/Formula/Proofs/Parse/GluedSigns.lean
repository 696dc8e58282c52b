import Formula.Proofs.Eval.Folding
import Formula.Proofs.Grammar.SignOperators
import Formula.Proofs.Parse.Blanks
import Formula.Proofs.RoundTrip.Trees
import Formula.Proofs.Token.SignedNumbers

/-!
# Signs in front of numbers

Where an operand may come, a sign directly in front of a digit belongs to the
number.  With a space behind it, it is an operator that the number is an operand
of.  Both mean the same: one parser finds a literal where the other one finds an
operator on a literal, and a host cannot tell them apart, whatever is around them.
-/

namespace Formula

open Text Tokenizer

/-! ## Trees that mean the same -/

namespace Expr

/-- Trees that can stand for one another with every host. -/
def Equivalent (expr expr' : Expr) : Prop :=
  ∀ resolver, Interchangeable resolver expr expr'

theorem Equivalent.forall₂
    {exprs exprs' : List Expr}
    (same : List.Forall₂ Equivalent exprs exprs')
    (resolver : Resolver) :
    List.Forall₂ (Interchangeable resolver) exprs exprs' :=
  same.imp fun _ _ same => same resolver

theorem congruent_equivalent : Parse.Congruent Equivalent where
  refl expr _ := .refl expr
  var name _ _ same resolver :=
    .of_indices name
      (Interchangeable.run_evaluateIndices (Equivalent.forall₂ same resolver))
  call name _ _ same resolver := by
    refine .of_value rfl rfl ?_
    rw [evaluate, evaluate, Dialogue.run_bind, Dialogue.run_bind,
      Interchangeable.run_evaluateArguments (Equivalent.forall₂ same resolver)]
  unary op _ _ same resolver := .apply op .none (same resolver) .none
  binary op _ _ _ _ same sameRight resolver :=
    .apply op .none (same resolver) (.some (sameRight resolver))
  conditional same sameYes sameNo resolver :=
    .apply .conditional (.some (same resolver)) (sameYes resolver)
      (.some (sameNo resolver))

/-- An operator in front of a number is the number with the sign in front of it. -/
theorem equivalent_signed
    {c : Char}
    (isSign : c = '+' ∨ c = '-')
    {op : Op}
    (isPrefix : prefixOp? (Grammar.signToken c).kind = some op)
    (numeral : Numeral) :
    Equivalent (literal (numeral.signed c).value)
      (unary op (literal numeral.value)) := by
  intro resolver
  refine (Interchangeable.literal_of_run ?_).symm
  rcases isSign with rfl | rfl
  · obtain rfl : Op.plus = op := Option.some.inj isPrefix
    rw [unary, evaluate_unary (by decide)]
    cases numeral <;> rfl
  · obtain rfl : Op.minus = op := Option.some.inj isPrefix
    rw [unary, evaluate_unary (by decide)]
    cases numeral <;> rfl

end Expr

/-! ## Numbers at positions -/

/-- What a token says of the number it was read from, which may be malformed. -/
inductive Token.OfNumber : Option Numeral → Token → Prop where
  | malformed {token : Token} :
      token.kind = .error → OfNumber none token
  | meaning {token : Token} {numeral : Numeral} :
      token.kind = .integer ∨ token.kind = .float →
        Parse.constant? token = some numeral.value → OfNumber (some numeral) token

namespace Token.OfNumber

variable {token : Token} {numeral : Option Numeral} {meant : Numeral}

theorem kind_cases (ofNumber : OfNumber numeral token) :
    token.kind = .error ∨ token.kind = .integer ∨ token.kind = .float := by
  cases ofNumber with
  | malformed malformed => exact .inl malformed
  | meaning isNumber => exact .inr isNumber

/-- A number that means something is an operand. -/
theorem isNumber (ofNumber : OfNumber (some meant) token) :
    (token.kind = .integer ∨ token.kind = .float) ∧
      Parse.constant? token = some meant.value := by
  cases ofNumber with
  | meaning isNumber isConstant => exact ⟨isNumber, isConstant⟩

theorem wellFormed
    (ofNumber : OfNumber (some meant) token) :
    token.kind ≠ .error :=
  Parse.ne_error_of_number ofNumber.isNumber.1

end Token.OfNumber

/-- Where an operand may come, a number is the first token, in front of the rest
of the text. -/
structure Reader.AtNumber
    (s : Reader)
    (numeral : Option Numeral)
    (behind : List Char) : Prop where
  token : Token.OfNumber numeral ((ofSource s).scan Mode.operand.flags).token
  rest_eq : ((ofSource s).scan Mode.operand.flags).source.rest = behind

theorem Reader.atNumber_of_lex
    {blanks lexeme behind : List Char}
    {numeral : Option Numeral}
    (areBlank : ∀ c ∈ blanks, isBlank c)
    (starts : (lexeme ++ behind)[0]?.any isBlank = false)
    (lexed :
      ∀ past, Scanned.lex Flags.operand (⟨past, lexeme ++ behind⟩ : Reader) =
        Scanned.ofNumber lexeme numeral ⟨lexeme.reverse ++ past, behind⟩)
    (past : List Char) :
    AtNumber ⟨past, blanks ++ (lexeme ++ behind)⟩ numeral behind := by
  have skipped := Reader.readWhile_append past (lexeme ++ behind) areBlank starts
  have operand : Mode.operand.flags = Flags.operand := rfl
  constructor
  · rw [token_scan]
    simp only [ofSource, skipped, operand, lexed]
    rcases numeral with _ | n | x
    · exact .malformed rfl
    · exact .meaning (.inl rfl) rfl
    · exact .meaning (.inr rfl) rfl
  · rw [source_scan]
    simp only [ofSource, skipped, operand, lexed]
    rw [Scanned.source_ofNumber]

variable {c lead : Char} {blanks more : List Char}

/-- A number with a sign ends where the number behind the sign does.  If the
latter means something, so does the former; the least integer means
something with its sign only. -/
theorem Reader.exists_numbers
    (isSign : c = '+' ∨ c = '-')
    (digit : isDecimal lead)
    (areBlank : ∀ c ∈ blanks, isBlank c)
    (more : List Char) :
    ∃ (behind : List Char) (numeral numeral' : Option Numeral),
      (∀ past, AtNumber ⟨past, blanks ++ c :: lead :: more⟩ numeral' behind) ∧
      (∀ past, AtNumber ⟨past, ' ' :: lead :: more⟩ numeral behind) ∧
      ∀ meant, numeral = some meant → numeral' = some (meant.signed c) := by
  rcases Scanned.exists_signed isSign digit more with
    ⟨lexeme, behind, numeral, numeral', isText, lexed, lexedSigned, signed⟩
  have isNumber : isBlank lead = false :=
    isBlank_of_isNameNext (isNameNext_of_isDecimal digit)
  have isApart : isBlank c = false := by
    rcases isSign with rfl | rfl <;> decide
  refine ⟨behind, numeral, numeral', fun past => ?_, fun past => ?_, signed⟩
  · have atNumber := atNumber_of_lex areBlank (by simp [isApart]) lexedSigned past
    rwa [List.cons_append, ← isText] at atNumber
  · have areBlank : ∀ c ∈ [' '], isBlank c :=
      List.forall_mem_singleton.mpr (by decide)
    have atNumber :=
      atNumber_of_lex areBlank (by simp [← isText, isNumber]) lexed past
    rwa [← isText] at atNumber

/-- Behind tokens in front of the same text, tokenizers read alike. -/
theorem Tokenizer.aligned_behind
    {mode : Mode}
    {s s' : Reader}
    (wellFormed : ((ofSource s).scan mode.flags).token.kind ≠ .error)
    (wellFormed' : ((ofSource s').scan mode.flags).token.kind ≠ .error)
    (sameRest : ((ofSource s).scan mode.flags).source.rest =
      ((ofSource s').scan mode.flags).source.rest)
    (next : Mode) :
    Aligned (((ofSource s).scan mode.flags).get next.flags)
      (((ofSource s').scan mode.flags).get next.flags) := by
  have stands : _ = _ := stands_scan wellFormed next
  have stands' : _ = _ := stands_scan wellFormed' next
  rw [stands, stands']
  exact aligned_scan _ (congrArg (·.dropWhile isBlank) sameRest) rfl rfl

/-! ## Operands -/

/-- Without a number there is no operand. -/
theorem Parse.prefixed_fails
    {feed : Tokenizer Reader}
    {s : Reader}
    {behind : List Char}
    (atNumber : s.AtNumber none behind)
    (stands : feed.Stands .operand s) :
    Fails (prefixed feed).plain := by
  have served : TokenFeed.advance .operand feed =
      (ofSource s).scan Mode.operand.flags := stands
  have malformed :
      (TokenFeed.token (TokenFeed.advance .operand feed)).kind = .error := by
    rw [served]
    cases atNumber.token with
    | malformed malformed => exact malformed
  rw [plain_prefixed, reading_of_malformed malformed]
  exact ⟨_, _, rfl⟩

section

variable {s : Reader} {right : Tokenizer Reader}
variable (isSign : c = '+' ∨ c = '-') (areBlank : ∀ c ∈ blanks, isBlank c)
variable (isText : s.rest = blanks ++ c :: ' ' :: lead :: more)
variable (stands : right.Stands .operand s)
include isSign areBlank isText stands

/-- The sign in front of a space is read as an operator. -/
theorem Parse.reading_of_sign :
    ∃ op token rest past,
      prefixOp? (Grammar.signToken c).kind = some op ∧
      reading .operand right = (.ok token, rest) ∧
      Grammar.Moved (Grammar.signToken c) token ∧
      rest.Stands .operand ⟨past, ' ' :: lead :: more⟩ ∧
      rest.unget.Stands .operand s := by
  have isApart : (' ' :: lead :: more)[0]?.any isDecimal = false := rfl
  rcases Grammar.lexeme_sign isSign areBlank (.inr isApart) s.past with
    ⟨token, terminal, moved⟩
  have isSource :
      (⟨s.past, blanks ++ [c] ++ ' ' :: lead :: more⟩ : Reader) = s := by
    rw [List.append_assoc, List.singleton_append, ← isText]
  rw [isSource] at terminal
  rcases terminal.reading stands with ⟨rest, read, standsBehind, standsAgain⟩
  have isPrefix : ∃ op, prefixOp? (Grammar.signToken c).kind = some op := by
    rcases isSign with rfl | rfl <;> exact ⟨_, rfl⟩
  rcases isPrefix with ⟨op, isPrefix⟩
  exact ⟨op, token, rest, _, isPrefix, read, moved, standsBehind _, standsAgain⟩

/-- What is behind it is its operand. -/
theorem Parse.prefixed_of_sign :
    ∃ op rest past,
      prefixOp? (Grammar.signToken c).kind = some op ∧
      (prefixed right).plain =
        Result.andThen (prefixed rest).plain
          (fun operand rest => (.ok (.unary op operand), rest)) ∧
      rest.Stands .operand ⟨past, ' ' :: lead :: more⟩ := by
  rcases reading_of_sign isSign areBlank isText stands with
    ⟨op, token, rest, past, isPrefix, read, moved, standsBehind, _⟩
  refine ⟨op, rest, past, isPrefix, ?_, standsBehind⟩
  rw [plain_prefixed, read, Result.andThen_ok, moved.kind_eq, isPrefix]

theorem Parse.negation_of_sign :
    ∃ back : Tokenizer Reader,
      (negation right).plain = (prefixed back).plain ∧ back.Stands .operand s := by
  rcases reading_of_sign isSign areBlank isText stands with
    ⟨op, token, rest, _, _, read, moved, _, standsAgain⟩
  refine ⟨rest.unget, ?_, standsAgain⟩
  have notNegation : negation? token.kind = none := by
    rw [moved.kind_eq]
    rcases isSign with rfl | rfl <;> rfl
  rw [plain_negation, read, Result.andThen_ok, notNegation]
  rfl

/-- If the number is malformed, there is no operand. -/
theorem Parse.fails_of_malformed
    {behind : List Char}
    (atNumber : ∀ past, Reader.AtNumber ⟨past, ' ' :: lead :: more⟩ none behind) :
    Fails (negation right).plain ∧ Fails (prefixed right).plain := by
  have fails : ∀ feed : Tokenizer Reader, feed.Stands .operand s →
      Fails (prefixed feed).plain := by
    intro feed stands
    rcases prefixed_of_sign isSign areBlank isText stands with
      ⟨_, _, past, _, same, standsBehind⟩
    exact same ▸ (prefixed_fails (atNumber past) standsBehind).andThen _
  rcases negation_of_sign isSign areBlank isText stands with
    ⟨back, same, standsBack⟩
  exact ⟨same ▸ fails back standsBack, fails right stands⟩

/-- If it means something, the number with the sign is an operand that is
equivalent to the operator on the number, and behind them both texts read
alike. -/
theorem Parse.operands_of_number
    {goal : Reader}
    {left : Logged}
    {behind : List Char}
    {meant : Numeral}
    (standsLeft : left.tokenizer.Stands .operand goal)
    (atSigned : goal.AtNumber (some (meant.signed c)) behind)
    (atNumber :
      ∀ past, Reader.AtNumber ⟨past, ' ' :: lead :: more⟩ (some meant) behind) :
    ∃ operand operand' left' right',
      (prefixed left).plain = (.ok operand, left') ∧
      (prefixed right).plain = (.ok operand', right') ∧
      Expr.Equivalent operand operand' ∧
      Aligned (left'.tokenizer.get Mode.operator.flags)
        (right'.get Mode.operator.flags) := by
  rcases prefixed_of_sign isSign areBlank isText stands with
    ⟨op, rest, past, isPrefix, same, standsBehind⟩
  have ofNumber := (atNumber past).token
  have served : (TokenFeed.advance .operand left).tokenizer =
      (ofSource goal).scan Mode.operand.flags :=
    standsLeft
  have served' : TokenFeed.advance .operand rest =
      (ofSource ⟨past, ' ' :: lead :: more⟩).scan Mode.operand.flags :=
    standsBehind
  have ofSigned : Token.OfNumber (some (meant.signed c))
      (TokenFeed.advance .operand left).tokenizer.token :=
    served ▸ atSigned.token
  have operand :=
    prefixed_of_number rfl (Logged.advance_unget _ _) ofSigned.isNumber.1
      ofSigned.isNumber.2
  have operand' : (prefixed right).plain = (.ok (.unary op (.literal meant.value)),
      (ofSource ⟨past, ' ' :: lead :: more⟩).scan Mode.operand.flags) := by
    rw [same,
      prefixed_of_number served' (get_unget _ _) ofNumber.isNumber.1
        ofNumber.isNumber.2,
      Result.andThen_ok]
  refine ⟨_, _, _, _, operand, operand',
    Expr.equivalent_signed isSign isPrefix meant, ?_⟩
  rw [served]
  exact aligned_behind atSigned.token.wellFormed ofNumber.wellFormed
    (atSigned.rest_eq.trans (atNumber past).rest_eq.symm) _

end

/-! ## The two texts side by side -/

/-- Where an operand may come, one feed is at a position, and the other one in
front of a text. -/
structure Parse.AtSign
    (goal : Reader)
    (tail' : List Char)
    (left : Logged)
    (right : Tokenizer Reader) :
    Prop where
  stands : left.tokenizer.Stands .operand goal
  stands' : ∃ s : Reader, s.rest = tail' ∧ right.Stands .operand s

/-- Two feeds are in front of a sign, or they are at the sign where an operand
may come, or they are behind the number. -/
def Parse.Paired
    (before tail tail' : List Char)
    (mode : Mode)
    (left : Logged)
    (right : Tokenizer Reader) :
    Prop :=
  Ahead (· = .operand) before tail tail' left right ∨
    mode = .operand ∧ AtSign ⟨before.reverse, tail⟩ tail' left right ∨
      Aligned (left.tokenizer.get mode.flags) (right.get mode.flags)

section

variable {before : List Char}
variable (isSign : c = '+' ∨ c = '-') (digit : isDecimal lead)
  (areBlank : ∀ c ∈ blanks, isBlank c)
include isSign digit areBlank

/-- At the sign, one feed has a number, and the other one the sign as an
operator. -/
theorem Parse.AtSign.glued
    {left : Logged}
    {right : Tokenizer Reader}
    (atSign : AtSign ⟨before.reverse, blanks ++ c :: lead :: more⟩
      (blanks ++ c :: ' ' :: lead :: more) left right) :
    Glued
      (Paired before (blanks ++ c :: lead :: more)
        (blanks ++ c :: ' ' :: lead :: more))
      (AtSign ⟨before.reverse, blanks ++ c :: lead :: more⟩
        (blanks ++ c :: ' ' :: lead :: more))
      Expr.Equivalent (fun _ _ => True) (fun e e' => e.unplaced = e'.unplaced)
      True left right := by
  rcases Reader.exists_numbers isSign digit areBlank more with
    ⟨behind, numeral, numeral', atSigned, atNumber, signed⟩
  have requested := atSign
  rcases atSign with ⟨stands, s, isText, stands'⟩
  have served : (TokenFeed.advance .operand left).tokenizer =
      (ofSource ⟨before.reverse, blanks ++ c :: lead :: more⟩).scan
        Mode.operand.flags :=
    stands
  have ofSigned :
      Token.OfNumber numeral' (TokenFeed.advance .operand left).tokenizer.token :=
    served ▸ (atSigned before.reverse).token
  have served' : TokenFeed.advance .operand right =
      (ofSource s).scan Mode.operand.flags := stands'
  rcases reading_of_sign isSign areBlank isText stands' with
    ⟨_, _, _, _, _, read, moved, _⟩
  obtain ⟨rfl, rfl, _⟩ := reading_eq_ok read
  constructor
  case number => exact ofSigned.kind_cases
  case sign =>
    rw [moved.kind_eq]
    rcases isSign with rfl | rfl
    · exact .inl rfl
    · exact .inr rfl
  case unnamed =>
    rw [← (sameMeaning_of_moved moved).name_eq]
    rcases isSign with rfl | rfl <;> decide
  case back =>
    refine ⟨?_, s, isText, ?_⟩
    · show Stands .operand _ (TokenFeed.advance .operand left).tokenizer.unget
      exact served ▸ stands_unget_scan _ _
    · rw [served']
      exact stands_unget_scan _ _
  case requested => exact .inr (.inl ⟨rfl, requested⟩)
  case isLenient => trivial
  case hopeless =>
    intro malformed
    -- What is too large with a sign is too large without it.
    obtain rfl : numeral = none := by
      cases numeral with
      | none => rfl
      | some meant =>
          exact absurd malformed (signed meant rfl ▸ ofSigned).wellFormed
    exact fails_of_malformed isSign areBlank isText
      (served' ▸ stands_unget_scan _ _) atNumber
  case operand =>
    cases numeral with
    | none =>
        exact (fails_of_malformed isSign areBlank isText stands'
          atNumber).2.relates trivial _
    | some meant =>
        rcases operands_of_number isSign areBlank isText stands' stands
            (signed meant rfl ▸ atSigned before.reverse) atNumber with
          ⟨_, _, _, _, operand, operand', equivalent, aligned⟩
        rw [operand, operand']
        exact .ok equivalent (.inr (.inr aligned))

/-- A parser that gets to the sign where an operand may come finds equivalent
trees in both texts, if it finds any in the one with the space. -/
theorem Parse.Paired.feedRelation :
    FeedRelation
      (Logged.Passed (· = .operand) ⟨before.reverse, blanks ++ c :: lead :: more⟩)
      (Paired before (blanks ++ c :: lead :: more)
        (blanks ++ c :: ' ' :: lead :: more))
      (AtSign ⟨before.reverse, blanks ++ c :: lead :: more⟩
        (blanks ++ c :: ' ' :: lead :: more))
      Expr.Equivalent (fun _ _ => True)
      (fun e e' => e.unplaced = e'.unplaced) True where
  congruent := Expr.congruent_equivalent
  lost_advance mode passed := passed.advance (by simp) mode
  lost_unget passed := ⟨passed.notReached, passed.gone⟩
  regular {mode left right} paired notGlued here := by
    have stopped : Stopped (blanks ++ c :: lead :: more)
        (blanks ++ c :: ' ' :: lead :: more) :=
      ⟨blanks ++ [c], lead :: more, ' ' :: lead :: more, by simp, by simp,
        stops_of_blank (by decide) _⟩
    rcases paired with ahead | ⟨isOperand, atSign⟩ | aligned
    · rcases ahead.advance stopped here with ahead | ⟨isOperand, atGoal⟩
      · exact ahead.regular .inl here
      · refine absurd ⟨?_, right.source, atGoal.rest_eq, ?_⟩ (notGlued isOperand)
        · rw [Stands, get_of_reads atGoal.reads,
            scan_eq_of_source _ atGoal.reads.1 atGoal.sound.1, atGoal.source_eq]
        · rw [Stands, get_of_reads atGoal.reads',
            scan_eq_of_source _ atGoal.reads'.1 atGoal.sound.2]
    · exact absurd atSign (notGlued isOperand)
    · exact aligned.regular fun aligned => .inr (.inr aligned)
  apart atSign := atSign.glued isSign digit areBlank

end

/-! ## Lists of expressions -/

namespace Expression

theorem run_evaluateAt_of_equivalent
    {exprs exprs' : List Expr}
    (same : List.Forall₂ Expr.Equivalent exprs exprs')
    (position : Nat)
    (resolver : Resolver) :
    ((Expression.mk exprs).evaluateAt position).run resolver =
      ((Expression.mk exprs').evaluateAt position).run resolver := by
  induction same generalizing position with
  | nil => rfl
  | cons first _ ih =>
      cases position with
      | zero => exact (first resolver).value
      | succ position => exact ih position

/--
Where the parser looks for an operand and finds a sign in front of a digit, the
sign means the same as with a space behind it.  If the text with the space is
accepted, so is the text without it, with as many members, and each of them has
the same outcome with every host.
-/
theorem run_evaluateAt_of_glued_sign
    {multiple : Bool}
    {c lead : Char}
    (isSign : c = '+' ∨ c = '-')
    (digit : isDecimal lead)
    {before blanks more : String}
    (areBlank : ∀ d ∈ blanks.toList, isBlank d)
    (visited :
      (Mode.operand,
        ⟨before.toList.reverse, blanks.toList ++ c :: lead :: more.toList⟩) ∈
      Parse.visits multiple (before ++ blanks ++ String.ofList [c, lead] ++ more))
    {spaced : Expression}
    (accepted :
      parse (before ++ blanks ++ String.ofList [c, ' ', lead] ++ more) multiple =
        .ok spaced) :
    ∃ glued : Expression,
      parse (before ++ blanks ++ String.ofList [c, lead] ++ more) multiple =
          .ok glued ∧
      glued.size = spaced.size ∧
      ∀ position resolver,
        (glued.evaluateAt position).run resolver =
          (spaced.evaluateAt position).run resolver := by
  have relation :=
    @Parse.Paired.feedRelation c lead blanks.toList more.toList before.toList
      isSign digit areBlank
  have ready : Ahead (· = .operand) before.toList
      (blanks.toList ++ c :: lead :: more.toList)
      (blanks.toList ++ c :: ' ' :: lead :: more.toList)
      ⟨ofSource (Reader.ofList
        (before ++ blanks ++ String.ofList [c, lead] ++ more).toList), []⟩
      (ofSource (Reader.ofList
        (before ++ blanks ++ String.ofList [c, ' ', lead] ++ more).toList)) := by
    simpa using Ahead.ofSource
  have related := (relation.expressions_traces multiple _ _).relates (.inl ready)
    fun passed => passed.notReached ⟨.operand, rfl, visited⟩
  rw [parse, parseSource, ← Parse.expressions_logged]
  rw [parse, parseSource, Parse.expressions_text] at accepted
  generalize Parse.expressions multiple (Logged.mk _ _) = result at related
  generalize Parse.expressions multiple (ofSource (Reader.ofList _)) = result'
    at related accepted
  cases related with
  | @ok exprs exprs' _ _ same _ =>
      obtain rfl : Expression.mk exprs' = spaced := Except.ok.inj accepted
      exact ⟨⟨exprs⟩, rfl, same.length_eq, run_evaluateAt_of_equivalent same⟩
  | error => cases accepted
  | refused => cases accepted

/-- In `-1 + :a`, the sign belongs to the number. -/
theorem run_evaluateAt_of_glued_sign_sum :
    ∃ glued spaced : Expression,
      parse ("" ++ "" ++ String.ofList ['-', '1'] ++ " + :a") true = .ok glued ∧
      parse ("" ++ "" ++ String.ofList ['-', ' ', '1'] ++ " + :a") true =
          .ok spaced ∧
      glued.size = spaced.size ∧
      ∀ position resolver,
        (glued.evaluateAt position).run resolver =
          (spaced.evaluateAt position).run resolver := by
  have wellFormed : Expr.WellFormed
      (.binary .add (.unary .minus (.literal (.int 1))) (.var "a" [])) :=
    .binary rfl (.sign .minus (.literal (Value.readable_of_ne_float nofun)))
      (.variable ⟨'a', [], rfl, rfl, nofun⟩ nofun)
  have written : Expr.written
      (.binary .add (.unary .minus (.literal (.int 1))) (.var "a" [])) =
        "" ++ "" ++ String.ofList ['-', ' ', '1'] ++ " + :a" := by
    decide +kernel
  have accepted := written ▸ parse_written wellFormed
  rcases run_evaluateAt_of_glued_sign (.inr rfl) rfl (by simp)
    (Parse.visits_front true ("" ++ "" ++ String.ofList ['-', '1'] ++ " + :a"))
    accepted with
    ⟨glued, parsed, same⟩
  exact ⟨glued, _, parsed, accepted, same⟩

end Expression

end Formula
