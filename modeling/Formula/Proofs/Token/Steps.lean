import Formula.Token.Scan

/-!
# Steps of the string scanner

A string is scanned one character or one escape at a time.  Each lemma here is
one such step, under the conditions that lead to it.  The last ones say what a
string can fail at.
-/

namespace Formula.Scanned

open CharSource

variable {σ : Type} [CharSource σ] {s s' rest : σ} {quote c : Char}

/-- An escape other than a code point is one character behind the backslash. -/
theorem escaped_of_ne
    (read : next s = some (c, s'))
    (notCode : c ≠ 'u') :
    escaped s =
      (match Text.unescape? c with
        | some meant => .ok meant
        | none => .error (.invalidEscape c), s') := by
  rw [escaped, read]
  split
  · rename_i atEnd
    simp at atEnd
  · rename_i code
    simp only [Option.some.injEq, Prod.mk.injEq] at code
    exact absurd code.1 notCode
  · rename_i other
    simp only [Option.some.injEq, Prod.mk.injEq] at other
    rcases other with ⟨rfl, rfl⟩
    cases Text.unescape? c <;> rfl

theorem stringBody_end (atEnd : next s = none) :
    stringBody quote s = (some .unterminatedString, [], s) := by
  rw [stringBody]
  split <;> simp_all

theorem stringBody_close (read : next s = some (quote, s')) :
    stringBody quote s = (none, [], s') := by
  rw [stringBody]
  split
  · simp_all
  · rename_i found
    rcases Prod.mk.inj (Option.some.inj (read.symm.trans found)) with ⟨rfl, rfl⟩
    rw [if_pos rfl]

/-- A character that means itself. -/
theorem stringBody_plain
    (read : next s = some (c, s'))
    (notQuote : c ≠ quote)
    (notEscape : c ≠ '\\') :
    stringBody quote s =
      ((stringBody quote s').1, c :: (stringBody quote s').2.1,
        (stringBody quote s').2.2) := by
  rw [stringBody]
  split
  · simp_all
  · rename_i found
    rcases Prod.mk.inj (Option.some.inj (read.symm.trans found)) with ⟨rfl, rfl⟩
    rw [if_neg notQuote, if_neg notEscape]

theorem stringBody_escape
    {meant : Char}
    (read : next s = some ('\\', s'))
    (notQuote : '\\' ≠ quote)
    (escape : escaped s' = (.ok meant, rest)) :
    stringBody quote s =
      ((stringBody quote rest).1, meant :: (stringBody quote rest).2.1,
        (stringBody quote rest).2.2) := by
  rw [stringBody]
  split
  · simp_all
  · rename_i found
    rcases Prod.mk.inj (Option.some.inj (read.symm.trans found)) with ⟨rfl, rfl⟩
    rw [if_neg notQuote, if_pos rfl]
    split
    · simp_all
    · rename_i other
      rcases Prod.mk.inj (escape.symm.trans other) with ⟨same, rfl⟩
      obtain rfl := Except.ok.inj same
      rfl

theorem stringBody_malformed
    {fault : ScanError}
    (read : next s = some ('\\', s'))
    (notQuote : '\\' ≠ quote)
    (malformed : escaped s' = (.error fault, rest)) :
    stringBody quote s = (some fault, [], rest) := by
  rw [stringBody]
  split
  · simp_all
  · rename_i found
    rcases Prod.mk.inj (Option.some.inj (read.symm.trans found)) with ⟨rfl, rfl⟩
    rw [if_neg notQuote, if_pos rfl]
    split
    · rename_i other
      rcases Prod.mk.inj (malformed.symm.trans other) with ⟨same, rfl⟩
      obtain rfl := Except.error.inj same
      rfl
    · simp_all

/-! ## Faults -/

/-- An escape fails at the end of the text, or is none that is known. -/
theorem escaped_fault
    {fault : ScanError}
    (failed : (escaped s).1 = .error fault) :
    fault = .unterminatedString ∨ ∃ c, fault = .invalidEscape c := by
  rw [escaped] at failed
  split at failed
  case h_1 => exact .inl (Except.error.inj failed).symm
  case h_2 =>
    split at failed
    · split at failed
      · cases failed
      · exact .inr ⟨'u', (Except.error.inj failed).symm⟩
    · exact .inr ⟨'u', (Except.error.inj failed).symm⟩
  case h_3 c _ _ _ =>
    split at failed
    · cases failed
    · exact .inr ⟨c, (Except.error.inj failed).symm⟩

/-- So does a string.  The induction is on the rest of the text. -/
theorem stringBody_fault
    {fault : ScanError}
    (failed : (stringBody quote s).1 = some fault) :
    fault = .unterminatedString ∨ ∃ c, fault = .invalidEscape c := by
  fun_induction stringBody quote s with
  | case1 => exact .inl (Option.some.inj failed).symm
  | case2 => cases failed
  | case3 s s' cause rest malformed read notQuote =>
      obtain rfl := Option.some.inj failed
      exact escaped_fault (congrArg Prod.fst malformed)
  | case4 s s' meant rest escape fault body last whole read notQuote ih =>
      rw [whole] at ih
      exact ih failed
  | case5 s c s' read notQuote notEscape fault body last whole ih =>
      rw [whole] at ih
      exact ih failed

end Formula.Scanned
