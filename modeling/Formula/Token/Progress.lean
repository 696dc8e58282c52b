import Formula.Token.Scan

/-!
# Scanning makes progress

Every token takes at least one character from its source, except the one at the
end of the input.  Parsers rely on this to come to an end.
-/

namespace Formula

open CharSource

namespace CharSource

variable {σ : Type} [CharSource σ]

@[simp]
theorem total_take (s : σ) : total (take s).2 = total s := by
  rw [take]
  split
  · rename_i read
    exact total_next read
  · rfl

@[simp]
theorem total_sees
    (p : Char → Bool)
    (s : σ) :
    total (sees p s).2 = total s := by
  have looked := total_peek s
  rw [sees]
  split <;> rename_i seen <;> rw [seen] at looked <;> exact looked

@[simp]
theorem total_takeIf
    (p : Char → Bool)
    (s : σ) :
    total (takeIf p s).2 = total s := by
  have looked := total_peek s
  rw [takeIf]
  split <;> rename_i seen <;> rw [seen] at looked
  · split
    · simpa using looked
    · exact looked
  · exact looked

/-- Going back to a mark restores what was left to read there. -/
theorem remaining_reset
    {s before after : σ}
    (sameText : total before = total s)
    (back : reset (mark s).1 before = some after) :
    remaining after = remaining s := by
  simp only [remaining]
  rw [offset_reset back, total_reset back, sameText, (offset_mark s).2]

end CharSource

namespace Scanned

variable {σ : Type} [CharSource σ]

theorem remaining_word_le
    (flags : Flags)
    (first : Char)
    (s : σ) :
    remaining (word flags first s).source ≤ remaining s :=
  remaining_readWhile_le _ s

theorem remaining_color_le (s : σ) : remaining (color s).source ≤ remaining s := by
  have bound := remaining_readWhile_le Text.isHex s
  rw [color]
  simp only
  split <;> exact bound

theorem remaining_stringBody_le
    (quote : Char)
    (s : σ) :
    remaining (stringBody quote s).2.2 ≤ remaining s := by
  fun_induction stringBody quote s with
  | case1 s _ => exact Nat.le_refl _
  | case2 s s' read => exact Nat.le_of_lt (remaining_next read)
  | case3 s s' fault rest meant read =>
      have shorter := remaining_next read
      have bound := remaining_escaped_le s'
      rw [meant] at bound
      simp only at bound ⊢
      omega
  | case4 s s' char rest meant fault body last whole read _ ih =>
      have shorter := remaining_next read
      have bound := remaining_escaped_le s'
      rw [meant] at bound
      rw [whole] at ih
      simp only at bound ih ⊢
      omega
  | case5 s c s' read _ _ fault body last whole ih =>
      have shorter := remaining_next read
      rw [whole] at ih
      simp only at ih ⊢
      omega

theorem remaining_string_le
    (quote : Char)
    (s : σ) :
    remaining (string quote s).source ≤ remaining s := by
  have bound := remaining_stringBody_le quote s
  rw [string]
  split <;> rename_i whole <;> rw [whole] at bound <;> exact bound

theorem remaining_seesRadix (s : σ) : remaining (seesRadix s).2 = remaining s := by
  have looked := remaining_peek s
  rw [seesRadix]
  split <;> rename_i seen <;> rw [seen] at looked
  · exact looked
  · split
    · exact looked
    · simpa using looked

theorem remaining_radixNumber_le
    (radix : Nat)
    (sign : Option Char)
    (s : σ) :
    remaining (radixNumber radix sign s).source ≤ remaining s := by
  have bound :
      remaining (readWhile (Text.isDigit radix) (take s).2).2 ≤ remaining s :=
    Nat.le_trans (remaining_readWhile_le _ _) (remaining_take_le s)
  rw [radixNumber]
  simp only
  split <;> exact bound

theorem remaining_seesPlaces
    (s : σ) :
    remaining (seesPlaces s).2 = remaining s := by
  rw [seesPlaces]
  simp only
  split <;> simp

theorem remaining_fraction_le
    (s : σ) :
    remaining (fraction s).2 ≤ remaining s := by
  rw [fraction]
  simp only
  split
  · exact remaining_seesPlaces s ▸
      Nat.le_trans (remaining_readWhile_le _ _) (remaining_take_le _)
  · exact Nat.le_of_eq (remaining_seesPlaces s)

theorem remaining_exponent_le
    (s : σ) :
    remaining (exponent s).2 ≤ remaining s := by
  rw [exponent]
  simp only
  split
  · generalize seen : (sees (fun c => c == 'e' || c == 'E') s).2 = start
    have same : remaining start = remaining s := by simp [← seen]
    have shorter :
        remaining
            (sees Text.isDecimal
              (takeIf (fun c => c == '+' || c == '-')
                (take (mark start).2).2).2).2 ≤
          remaining start := by
      rw [remaining_sees]
      exact Nat.le_trans (remaining_takeIf_le _ _)
        (Nat.le_trans (remaining_take_le _) (Nat.le_of_eq (remaining_mark start)))
    split
    · exact same ▸ Nat.le_trans (remaining_readWhile_le _ _) shorter
    · split
      · rename_i back
        have restored := remaining_reset (by simp [total_mark]) back
        simp only
        omega
      · exact same ▸ shorter
  · simp

omit [CharSource σ] in
@[simp]
theorem source_wholeNumber
    (text : List Char)
    (s : σ) :
    (wholeNumber text s).source = s := by
  rw [wholeNumber]
  split <;> rfl

omit [CharSource σ] in
@[simp]
theorem source_floatNumber
    (text : List Char)
    (s : σ) :
    (floatNumber text s).source = s := by
  rw [floatNumber]
  split <;> rfl

theorem remaining_decimalNumber_le
    (head : List Char)
    (s : σ) :
    remaining (decimalNumber head s).source ≤ remaining s := by
  have bound :
      remaining (exponent (fraction (readWhile Text.isDecimal s).2).2).2 ≤
        remaining s :=
    Nat.le_trans (remaining_exponent_le _)
      (Nat.le_trans (remaining_fraction_le _) (remaining_readWhile_le _ _))
  rw [decimalNumber]
  simp only
  split
  · rename_i failed
    rw [failed] at bound
    exact bound
  · rename_i read
    rw [read] at bound
    split <;> simpa using bound

theorem remaining_numberFrom_le
    (sign : Option Char)
    (lead : Char)
    (s : σ) :
    remaining (numberFrom sign lead s).source ≤ remaining s := by
  have looked := remaining_seesRadix s
  rw [numberFrom]
  split
  · split <;> rename_i seen <;> rw [seen] at looked
    · exact looked ▸ remaining_radixNumber_le _ _ _
    · exact looked ▸ remaining_decimalNumber_le _ _
  · exact remaining_decimalNumber_le _ _

theorem remaining_number_le
    (first : Char)
    (s : σ) :
    remaining (number first s).source ≤ remaining s := by
  rw [number]
  split
  · exact remaining_numberFrom_le _ _ _
  · split
    · rename_i read
      exact Nat.le_trans (remaining_numberFrom_le _ _ _)
        (Nat.le_of_lt (remaining_next read))
    · exact Nat.le_refl _

theorem remaining_double_le
    (alone : TokenKind)
    (second : Char)
    (both : TokenKind)
    (first : Char)
    (s : σ) :
    remaining (double alone second both first s).source ≤ remaining s := by
  have bound := remaining_takeIf_le (· == second) s
  rw [double]
  split <;> rename_i taken <;> rw [taken] at bound <;> exact bound

theorem remaining_less_le
    (first : Char)
    (s : σ) :
    remaining (less first s).source ≤ remaining s := by
  have bound := remaining_takeIf_le (· == '=') s
  rw [less]
  split
  · rename_i s' taken
    rw [taken] at bound
    have further := remaining_takeIf_le (· == '>') s'
    split <;> rename_i took <;> rw [took] at further <;>
      exact Nat.le_trans further bound
  · rename_i taken
    rw [taken] at bound
    exact Nat.le_trans (remaining_double_le _ _ _ _ _) bound

theorem remaining_symbol_le
    (first : Char)
    (s : σ) :
    remaining (symbol first s).source ≤ remaining s := by
  rw [symbol.eq_def]
  split
  case h_15 => exact remaining_less_le _ _
  all_goals first
    | exact Nat.le_refl _
    | exact remaining_double_le _ _ _ _ _

theorem remaining_colon_le (s : σ) : remaining (colon s).source ≤ remaining s := by
  have looked := remaining_sees Text.isNameFirst s
  rw [colon]
  split <;> rename_i seen <;> rw [seen] at looked
  · exact looked ▸ remaining_readWhile_le _ _
  · exact looked ▸ remaining_symbol_le _ _

theorem remaining_sign_le
    (flags : Flags)
    (first : Char)
    (s : σ) :
    remaining (sign flags first s).source ≤ remaining s := by
  have looked := remaining_sees Text.isDecimal s
  rw [sign]
  split
  · exact remaining_symbol_le _ _
  · split <;> rename_i seen <;> rw [seen] at looked
    · exact looked ▸ remaining_number_le _ _
    · exact looked ▸ remaining_symbol_le _ _

/-- The token at the front of a source either is the end of the input, and the
source stays as it is, or takes something from the source. -/
theorem lex_progress
    (flags : Flags)
    (s : σ) :
    (lex flags s).outcome = .ok .endOfInput ∧ (lex flags s).source = s ∨
      remaining (lex flags s).source < remaining s := by
  rw [lex]
  split
  · exact Or.inl ⟨rfl, rfl⟩
  · rename_i c s' read
    right
    have shorter := remaining_next read
    suffices bound : ∀ scanned : Scanned σ,
        remaining scanned.source ≤ remaining s' →
          remaining scanned.source < remaining s by
      split
      · exact bound _ (remaining_string_le _ _)
      split
      · exact bound _ (remaining_colon_le _)
      split
      · exact bound _ (remaining_color_le _)
      split
      · exact bound _ (remaining_sign_le _ _ _)
      split
      · exact bound _ (remaining_number_le _ _)
      split
      · exact bound _ (remaining_word_le _ _ _)
      · exact bound _ (remaining_symbol_le _ _)
    intro scanned notMore
    omega

theorem remaining_lex_le
    (flags : Flags)
    (s : σ) :
    remaining (lex flags s).source ≤ remaining s := by
  rcases lex_progress flags s with ⟨_, same⟩ | shorter
  · exact Nat.le_of_eq (congrArg remaining same)
  · exact Nat.le_of_lt shorter

end Scanned

end Formula
