import Formula.Proofs.Grammar.Operands
import Formula.Proofs.Grammar.Viable
import Formula.Proofs.Parse.Prefixes

/-!
# Where texts are rejected

A parser that does not expect a token is right to give up there, and not earlier:
the text in front of the token can be completed, and the text up to its end
cannot, once a blank follows it.
-/

namespace Formula.Grammar

open Parse Text
open Tokenizer (ofSource)

/-- The parser accepts a text. -/
def Accepted (chars : List Char) : Prop :=
  ∃ t,
    (wholeExpression (ofSource (Cursor.ofString (String.ofList chars)))).1 = .ok t

theorem accepted_iff (chars : List Char) :
    Accepted chars ↔
      ∃ t, (wholeExpression (ofSource (Reader.ofList chars))).1 = .ok t := by
  rw [Accepted]
  simp only [wholeExpression_text, String.toList_ofList]

/-- Behind an expression, what could close something is unexpected if nothing is
open. -/
theorem wholeExpression_of_closing
    {σ : Type} [CharSource σ]
    {s s₁ s₂ : σ}
    {t : Expr}
    {token : Token}
    (derives : Derives .ternary s t s₁)
    (terminal : Terminal .operator s₁ token s₂)
    (closing : Closing token.kind)
    (notEnd : token.kind ≠ .endOfInput) :
    (wholeExpression (ofSource s)).1 =
      .error (token.unexpected .endOfExpression) := by
  rcases complete derives ⟨token, s₂, terminal, closing⟩ _
    (Tokenizer.stands_ofSource .operand s) with ⟨feed₁, reached, stands₁⟩
  rcases terminal.reading stands₁ with ⟨feed₂, read, _⟩
  rw [wholeExpression_eq, expression_eq, reached, Result.andThen_ok, expecting,
    read, Result.andThen_ok, if_neg notEnd, Result.andThen_error]

/-- Between two parts of a text stands the token at which the text becomes
hopeless. -/
structure Hopeless
    (text before : List Char)
    (piece : Piece)
    (behind : List Char)
    (token : Token) :
    Prop where
  text_eq : text = before ++ piece.chars ++ behind
  fits : piece.Fits before behind token
  wellFormed : token.kind ≠ .error
  /-- What is in front of the token can be completed. -/
  completable : ∃ more, Accepted (before ++ piece.blanks ++ more)
  /-- What ends with the token cannot, unless it is the end of the input. -/
  final : token.kind ≠ .endOfInput → ∀ blank more, isBlank blank →
    ¬ Accepted (before ++ piece.chars ++ blank :: more)

/-- What can be completed to a whole, can be completed behind any blanks. -/
theorem accepted_of_completable
    {text blanks : List Char}
    {s : Reader}
    {t : Expr}
    (completable : Completable (Reader.ofList text) s (Whole t))
    (areBlank : ∀ c ∈ blanks, isBlank c) :
    ∃ before more, (Reader.ofList text).Reads before s ∧
      Accepted (before ++ blanks ++ more) := by
  rcases completable with ⟨before, more, reads, completes⟩
  have whole := completes _ [] (gap_append_space areBlank) stops_nil
  refine ⟨before, ' ' :: more, reads, (accepted_iff _).mpr ⟨t, ?_⟩⟩
  rw [wholeExpression_eq_ok_iff]
  simpa using whole.spells

section

variable {expected : Expectation} {found : String} {place : Place}

/-- What a parser has given up on is not accepted behind the token where it has. -/
theorem not_accepted_of_failed
    {front : List Char}
    {e : Error}
    {after : Tokenizer Reader}
    (failed :
      wholeExpression (ofSource (Reader.ofList (front ++ after.source.rest))) =
        (.error e, after))
    (wellFormed : after.token.kind ≠ .error)
    (notEnd : after.token.kind ≠ .endOfInput)
    {blank : Char}
    (blanks : isBlank blank)
    (more : List Char) :
    ¬ Accepted (front ++ blank :: more) := by
  intro accepted
  rcases (accepted_iff _).mp accepted with ⟨t, parsed⟩
  refine wholeExpression_ne_ok_of_stops failed ?_
    (stops_of_blank blanks more) t parsed
  rintro (malformed | beyond | ⟨isEnd, _⟩)
  · exact wellFormed malformed
  · exact Nat.lt_irrefl _ beyond
  · exact notEnd isEnd

/-- Over characters, a parser gives up at an unexpected token where the text is
hopeless. -/
theorem hopeless_of_failed
    {text : List Char}
    {after : Tokenizer Reader}
    (failed : wholeExpression (ofSource (Reader.ofList text)) =
      (.error (.unexpected expected found place), after)) :
    .unexpected expected found place = after.token.unexpected expected ∧
      ∃ before piece,
        Hopeless text before piece after.source.rest after.token := by
  have stands := Tokenizer.stands_ofSource .operand (Reader.ofList text)
  have keeps :=
    Tokenizer.preserved_coherent_reader.feedInvariant.wholeExpression_keeps
      (Tokenizer.coherent_ofSource (Reader.ofList text))
  rw [failed] at keeps
  cases (wholeExpression_viable _ _ stands).givesUp failed with
  | malformed malformed isFault =>
      rcases keeps.1.exists_fault malformed with ⟨failure, isMalformed⟩
      cases isFault.trans isMalformed
  | @unexpected s mode _ completes scanned wellFormed isError =>
      rcases completes with ⟨t, completable⟩
      rcases Tokenizer.exists_piece_of_scan mode.flags (ofSource s) with
        ⟨piece, reads', fits⟩
      rw [← scanned] at reads' fits
      rcases accepted_of_completable completable fits.areBlank with
        ⟨before, more, reads, accepted⟩
      have past_eq : s.past.reverse = before := by
        rw [reads.past_eq, List.reverse_append, List.reverse_reverse]
        rfl
      obtain rfl : text = before ++ piece.chars ++ after.source.rest := by
        rw [List.append_assoc, ← reads'.rest_eq]
        exact reads.rest_eq
      refine ⟨?_, before, piece, rfl, past_eq ▸ fits, wellFormed,
        ⟨more, accepted⟩, ?_⟩
      · cases isError
        rfl
      · exact fun notEnd _ more blank =>
          not_accepted_of_failed failed wellFormed notEnd blank more

/-- A parser that does not expect a token reports it at the first one that makes
the text hopeless, with its place. -/
theorem hopeless_of_unexpected
    {text : String}
    {after : Tokenizer Cursor}
    (failed : wholeExpression (ofSource (Cursor.ofString text)) =
      (.error (.unexpected expected found place), after)) :
    found = after.token.shown ∧ place = after.token.place ∧
      ∃ before piece behind, after.source.rest = String.ofList behind ∧
        Hopeless text.toList before piece behind after.token := by
  have alike := Tokenizer.alike_ofSource (Cursor.models_ofString text)
  have both :=
    ((Tokenizer.feedSimulation (Cursor.rewinding text)).wholeExpression_tracks
      _ _).agree alike id
  rw [failed] at both
  rcases parsed : wholeExpression (ofSource (Reader.ofList text.toList)) with
    ⟨result, reader⟩
  rw [parsed] at both
  cases both with
  | error agreed same =>
      obtain rfl := agreed.1
      rcases hopeless_of_failed parsed with ⟨isError, before, piece, hopeless⟩
      rw [← same.token_eq] at isError hopeless
      rcases Error.unexpected.inj isError with ⟨_, isShown, isPlace⟩
      exact ⟨isShown, isPlace, before, piece, reader.source.rest,
        same.source.rest_eq, hopeless⟩

/-- A parenthesis that nothing has opened. -/
theorem hopeless_of_unexpected_paren :
    ∃ after : Tokenizer Cursor,
      wholeExpression (ofSource (Cursor.ofString ":a )")) =
        (.error (.unexpected .endOfExpression ")" ⟨1, 4⟩), after) ∧
      ")" = after.token.shown ∧ ⟨1, 4⟩ = after.token.place ∧
        ∃ before piece behind, after.source.rest = String.ofList behind ∧
          Hopeless ":a )".toList before piece behind after.token := by
  have name : Lexeme .operand [':', 'a'] [' ', ')']
      fun token => token.kind = .identifier ∧ Name token "a" :=
    .identifier (by decide) (List.forall_mem_nil _) (apart_space [')'])
  have operand : Operand (ranks + 3) ([':', 'a'] ++ []) [' ', ')'] (.var "a" []) :=
    .variable name .noIndex
  have terminal : Terminal .operator (⟨['a', ':'], [' ', ')']⟩ : Reader)
      ⟨.closeParen, ")", none, ⟨1, 4⟩⟩ ⟨[')', ' ', 'a', ':'], []⟩ :=
    ⟨by decide +kernel, by decide +kernel, nofun⟩
  have failed : (wholeExpression (ofSource (Cursor.ofString ":a )"))).1 =
      .error (.unexpected .endOfExpression ")" ⟨1, 4⟩) := by
    rw [wholeExpression_text]
    exact wholeExpression_of_closing (operand.ternary []) terminal
      .closeParen nofun
  exact ⟨_, Prod.ext failed rfl, hopeless_of_unexpected (Prod.ext failed rfl)⟩

end

end Formula.Grammar
