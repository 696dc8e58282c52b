import Formula.Proofs.Token.Locality

/-!
# Tokens and what was read before them

A scanner looks at the text to come only.  So readers of the same text to come
have the same token in front, well formed or not, wherever in their own text they
are.
-/

namespace Formula.Scanned

open Text Number

/-- Readers of the same text to come. -/
def SameRest (s t : Reader) : Prop :=
  s.rest = t.rest

theorem next_of_sameRest
    {s s' t : Reader}
    {c : Char}
    (same : SameRest s t)
    (read : CharSource.next s = some (c, s')) :
    ∃ t', CharSource.next t = some (c, t') ∧ SameRest s' t' := by
  rcases Reader.next_eq_some_iff.mp read with ⟨isRest, _⟩
  refine ⟨⟨c :: t.past, s'.rest⟩, Reader.next_eq_some_iff.mpr ⟨?_, rfl⟩, rfl⟩
  exact same.symm.trans isRest

theorem next_eq_none_of_sameRest
    {s t : Reader}
    (same : SameRest s t)
    (atEnd : CharSource.next s = none) :
    CharSource.next t = none := by
  rcases s with ⟨past, _ | ⟨c, text⟩⟩
  · rcases t with ⟨past', text'⟩
    obtain rfl : [] = text' := same
    rfl
  · cases atEnd

theorem hexCode_of_sameRest
    (count code : Nat)
    {s t : Reader}
    (same : SameRest s t) :
    Both SameRest (hexCode count code s) (hexCode count code t) := by
  induction count generalizing code s t with
  | zero => exact ⟨rfl, same⟩
  | succ count ih =>
      rw [hexCode, hexCode]
      cases read : CharSource.next s with
      | none =>
          rw [next_eq_none_of_sameRest same read]
          exact ⟨rfl, same⟩
      | some step =>
          rcases step with ⟨c, s'⟩
          rcases next_of_sameRest same read with ⟨t', read', same'⟩
          rw [read']
          dsimp only
          cases digit? 16 c with
          | none => exact ⟨rfl, same'⟩
          | some digit => exact ih _ same'

theorem escaped_of_sameRest
    {s t : Reader}
    (same : SameRest s t) :
    Both SameRest (escaped s) (escaped t) := by
  cases read : CharSource.next s with
  | none =>
      rw [escaped, escaped, read, next_eq_none_of_sameRest same read]
      exact ⟨rfl, same⟩
  | some step =>
      rcases step with ⟨c, s'⟩
      rcases next_of_sameRest same read with ⟨t', read', same'⟩
      by_cases isCode : c = 'u'
      · subst isCode
        rcases (hexCode_of_sameRest 4 0 same').split with
          ⟨code, _, _, coded, coded', same''⟩
        rw [escaped, escaped, read, read']
        simp only [coded, coded']
        cases code with
        | none => exact ⟨rfl, same''⟩
        | some code =>
            dsimp only
            split <;> exact ⟨rfl, same''⟩
      · rw [escaped_of_ne read isCode, escaped_of_ne read' isCode]
        exact ⟨rfl, same'⟩

/-- What a string holds does not depend on what was read before it. -/
theorem stringBody_of_sameRest
    (quote : Char)
    {s t : Reader}
    (same : SameRest s t) :
    (stringBody quote s).1 = (stringBody quote t).1 ∧
      Both SameRest (stringBody quote s).2 (stringBody quote t).2 := by
  fun_induction stringBody quote s generalizing t with
  | case1 s atEnd =>
      rw [stringBody_end (next_eq_none_of_sameRest same atEnd)]
      exact ⟨rfl, rfl, same⟩
  | case2 s s' read =>
      rcases next_of_sameRest same read with ⟨t', read', same'⟩
      rw [stringBody_close read']
      exact ⟨rfl, rfl, same'⟩
  | case3 s s' fault rest malformed read notQuote =>
      rcases next_of_sameRest same read with ⟨t', read', same'⟩
      rcases (escaped_of_sameRest same').right_eq malformed with
        ⟨_, malformed', same''⟩
      rw [stringBody_malformed read' notQuote malformed']
      exact ⟨rfl, rfl, same''⟩
  | case4 s s' meant rest escape fault body last whole read notQuote ih =>
      rcases next_of_sameRest same read with ⟨t', read', same'⟩
      rcases (escaped_of_sameRest same').right_eq escape with ⟨_, escape', same''⟩
      have both := ih same''
      rw [whole] at both
      rw [stringBody_escape read' notQuote escape']
      exact ⟨both.1, congrArg (meant :: ·) both.2.1, both.2.2⟩
  | case5 s c s' read notQuote notEscape fault body last whole ih =>
      rcases next_of_sameRest same read with ⟨t', read', same'⟩
      have both := ih same'
      rw [whole] at both
      rw [stringBody_plain read' notQuote notEscape]
      exact ⟨both.1, congrArg (c :: ·) both.2.1, both.2.2⟩

theorem string_past
    (quote : Char)
    {past front tail : List Char}
    (ends : (string quote (⟨past, front ++ tail⟩ : Reader)).source.rest = tail)
    (past' : List Char) :
    string quote (⟨past', front ++ tail⟩ : Reader) =
      { string quote (⟨past, front ++ tail⟩ : Reader) with
        source := ⟨front.reverse ++ past', tail⟩ } := by
  have same : SameRest ⟨past, front ++ tail⟩ ⟨past', front ++ tail⟩ := rfl
  rcases stringBody_reads quote ⟨past', front ++ tail⟩ with ⟨run, reads, _⟩
  rcases stringBody_of_sameRest quote same with ⟨sameFault, sameText, sameRest⟩
  rcases body : stringBody quote (⟨past, front ++ tail⟩ : Reader) with
    ⟨fault, text, s⟩
  rcases body' : stringBody quote (⟨past', front ++ tail⟩ : Reader) with
    ⟨fault', text', s'⟩
  rw [body, body'] at sameFault sameText sameRest
  obtain rfl : fault = fault' := sameFault
  obtain rfl : text = text' := sameText
  have isRest : s'.rest = tail := by
    rw [string, body] at ends
    cases fault <;> exact sameRest.symm.trans ends
  rw [body'] at reads
  obtain rfl : front = run :=
    List.append_cancel_right (reads.rest_eq.trans (by rw [isRest]))
  have isSource : s' = ⟨front.reverse ++ past', tail⟩ := by
    rw [← reads.past_eq, ← isRest]
  rw [string, string, body, body', isSource]
  cases fault <;> rfl

/-- Nor does any token, malformed or not. -/
theorem lex_past
    (flags : Flags)
    (past past' text : List Char) :
    ∃ lexeme rest, text = lexeme ++ rest ∧
      (lex flags (⟨past, text⟩ : Reader)).source = ⟨lexeme.reverse ++ past, rest⟩ ∧
        lex flags (⟨past', text⟩ : Reader) =
          { lex flags (⟨past, text⟩ : Reader) with
            source := ⟨lexeme.reverse ++ past', rest⟩ } := by
  rcases exists_lexeme flags ⟨past, text⟩ with ⟨lexeme, reads, isEmpty, atEnd, _⟩
  have isSource : (lex flags (⟨past, text⟩ : Reader)).source =
      ⟨lexeme.reverse ++ past,
        (lex flags (⟨past, text⟩ : Reader)).source.rest⟩ := by
    rw [← reads.past_eq]
  refine ⟨lexeme, _, reads.rest_eq, isSource, ?_⟩
  rcases lexeme with _ | ⟨c, front⟩
  · obtain rfl : text = [] := reads.rest_eq.trans (atEnd (isEmpty.mp rfl))
    rfl
  generalize isTail :
    (lex flags (⟨past, text⟩ : Reader)).source.rest = tail at reads ⊢
  obtain rfl : text = c :: front ++ tail := isTail ▸ reads.rest_eq
  have stopped : StoppedAt joining tail tail :=
    ⟨tail, [], [], by simp, by simp, stops_nil⟩
  have joins : seconds ⊆ joining := by decide
  exact lex_kept stopped joins (fun _ ends => string_past c ends _)
    (fun _ => id) isTail

end Formula.Scanned
