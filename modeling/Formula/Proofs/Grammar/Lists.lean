import Formula.Proofs.Grammar.Complete

/-!
# The grammar of lists

A list of expressions has a semicolon between any two of its members, and may
have one more behind the last.  The parser of lists accepts exactly these.
-/

namespace Formula.Grammar

open Parse
open Result (andThen_eq_ok)

variable {σ : Type} [CharSource σ]

/-- The rest of the text spells the further members of a list. -/
inductive SpellsRest : σ → List Expr → Prop where
  | done {s s' : σ} {token : Token} :
      Terminal .operator s token s' → token.kind = .endOfInput →
        SpellsRest s []
  | trailing {s s₁ s' : σ} {semicolon token : Token} :
      Terminal .operator s semicolon s₁ → semicolon.kind = .semicolon →
        Terminal .operand s₁ token s' → token.kind = .endOfInput →
          SpellsRest s []
  | more {s s₁ s₂ : σ} {semicolon : Token} {t : Expr} {ts : List Expr} :
      Terminal .operator s semicolon s₁ → semicolon.kind = .semicolon →
        Derives .ternary s₁ t s₂ → SpellsRest s₂ ts →
          SpellsRest s (t :: ts)

/-- The whole text from a position on spells a list of trees. -/
inductive SpellsList : σ → List Expr → Prop where
  | list {s s' : σ} {t : Expr} {ts : List Expr} :
      Derives .ternary s t s' → SpellsRest s' ts → SpellsList s (t :: ts)

/-- In front of the rest of a list, an expression is complete. -/
theorem SpellsRest.closed
    {s : σ}
    {ts : List Expr}
    (spells : SpellsRest s ts) :
    Closed s := by
  cases spells with
  | done terminal isEnd => exact ⟨_, _, terminal, isEnd ▸ .endOfInput⟩
  | trailing terminal isSemicolon =>
      exact ⟨_, _, terminal, isSemicolon ▸ .semicolon⟩
  | more terminal isSemicolon => exact ⟨_, _, terminal, isSemicolon ▸ .semicolon⟩

theorem spellsRest_of_others
    {s : σ}
    {ts : List Expr}
    {feed rest : Tokenizer σ}
    (stands : feed.Stands .operator s)
    (done : (others true feed).plain = (.ok ts, rest)) :
    SpellsRest s ts := by
  rw [plain_others] at done
  rcases andThen_eq_ok done with ⟨token, feed₁, read, done⟩
  rcases terminal_of_reading stands read with ⟨s₁, terminal, stands₁, _⟩
  split at done
  case isTrue isEnd =>
    cases done
    exact .done terminal isEnd
  split at done
  case isFalse => cases done
  case isTrue isSemicolon =>
    have shorter : TokenFeed.size feed₁ < TokenFeed.size feed :=
      size_lt_of_reading read (by simp [isSemicolon.1])
    rcases andThen_eq_ok done with ⟨next, feed₂, read', done⟩
    rcases terminal_of_reading (stands₁ _) read' with ⟨s₂, terminal', _, back⟩
    have le := size_unget_le_of_reading read'
    split at done
    case isTrue isEnd =>
      cases done
      exact .trailing terminal isSemicolon.1 terminal' isEnd
    case isFalse =>
      rcases andThen_eq_ok done with ⟨t, feed₃, first, done⟩
      have le' := size_le_of_plain first
      rcases (conditional_sound s₁ _ back).derives first with
        ⟨s₃, derives, stands₃⟩
      rcases andThen_eq_ok done with ⟨more, feed₄, second, done⟩
      cases done
      exact .more terminal isSemicolon.1 derives
        (spellsRest_of_others stands₃ second)
termination_by TokenFeed.size feed

theorem others_of_spellsRest
    {s : σ}
    {ts : List Expr}
    (spells : SpellsRest s ts)
    {feed : Tokenizer σ}
    (stands : feed.Stands .operator s) :
    ∃ rest, (others true feed).plain = (.ok ts, rest) := by
  induction spells generalizing feed with
  | done terminal isEnd =>
      rcases terminal.reading stands with ⟨feed₁, read, _, _⟩
      refine ⟨feed₁, ?_⟩
      rw [plain_others, read, Result.andThen_ok, if_pos isEnd]
  | trailing terminal isSemicolon terminal' isEnd =>
      rcases terminal.reading stands with ⟨feed₁, read, stands₁, _⟩
      rcases terminal'.reading (stands₁ _) with ⟨feed₂, read', _, _⟩
      refine ⟨feed₂, ?_⟩
      rw [plain_others, read, Result.andThen_ok, if_neg (by simp [isSemicolon]),
        if_pos ⟨isSemicolon, rfl⟩, read', Result.andThen_ok, if_pos isEnd]
  | more terminal isSemicolon derives spells ih =>
      rcases derives.starts nofun with ⟨next, s₂, terminal', notClosing⟩
      have notEnd : next.kind ≠ .endOfInput :=
        fun isEnd => notClosing (isEnd ▸ .endOfInput)
      rcases terminal.reading stands with ⟨feed₁, read, stands₁, _⟩
      rcases terminal'.reading (stands₁ _) with ⟨feed₂, read', _, back⟩
      rcases complete derives spells.closed _ back with ⟨feed₃, reached, stands₃⟩
      rcases ih stands₃ with ⟨feed₄, reachedMore⟩
      refine ⟨feed₄, ?_⟩
      rw [plain_others, read, Result.andThen_ok, if_neg (by simp [isSemicolon]),
        if_pos ⟨isSemicolon, rfl⟩, read', Result.andThen_ok,
        if_neg notEnd, reached,
        Result.andThen_ok, reachedMore, Result.andThen_ok]

/-- The parser of lists accepts exactly the lists of the grammar. -/
theorem expressions_eq_ok_iff
    (s : σ)
    (ts : List Expr) :
    (expressions true (Tokenizer.ofSource s)).1 = .ok ts ↔ SpellsList s ts := by
  constructor
  · intro done
    rcases whole : expressions true (Tokenizer.ofSource s) with ⟨result, rest⟩
    rw [whole] at done
    obtain rfl : result = .ok ts := done
    rw [expressions_eq] at whole
    rcases andThen_eq_ok whole with ⟨t, feed₁, first, whole⟩
    rcases (conditional_sound s _ (Tokenizer.stands_ofSource _ s)).derives
      first with
      ⟨s₁, derives, stands₁⟩
    rcases andThen_eq_ok whole with ⟨more, feed₂, second, whole⟩
    cases whole
    exact .list derives (spellsRest_of_others stands₁ second)
  · rintro ⟨derives, spells⟩
    rcases complete derives spells.closed _
      (Tokenizer.stands_ofSource .operand s) with
      ⟨feed₁, reached, stands₁⟩
    rcases others_of_spellsRest spells stands₁ with ⟨feed₂, reachedMore⟩
    rw [expressions_eq, expression_eq, reached, Result.andThen_ok, reachedMore,
      Result.andThen_ok]

end Formula.Grammar
