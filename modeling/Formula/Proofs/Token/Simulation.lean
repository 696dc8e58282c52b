import Formula.Proofs.Source.Simulation
import Formula.Proofs.Token.Steps
import Formula.Token.Tokenizer

/-!
# Related sources give the same tokens

Every scanner, and the tokenizer on top of them, finds the same in two sources
that are related by a `Rewinding` simulation.  Scanners set a mark in one place
only, in front of an exponent, and never go back to an older one.
-/

namespace Formula

open CharSource

/-- The same token behind related sources, and no mark that was not honoured. -/
structure Scanned.Alike {σ τ : Type}
    (alike : σ → τ → Prop)
    (left : Scanned σ)
    (right : Scanned τ) :
    Prop where
  outcome_eq : left.outcome = right.outcome
  text_eq : left.text = right.text
  literal_eq : left.literal = right.literal
  source : alike left.source right.source
  honoured : left.outcome ≠ .error .staleMark

namespace Scanned

variable {σ τ : Type} [CharSource σ] [CharSource τ] {alike : σ → τ → Prop}
variable {s : σ} {t : τ}

/-! ## Words, colors and strings -/

theorem word_alike
    (simulation : Simulation alike)
    (flags : Flags)
    (first : Char)
    (related : alike s t) :
    Alike alike (word flags first s) (word flags first t) := by
  rcases (simulation.readWhile Text.isNameNext related).split with
    ⟨run, s', t', read, read', related'⟩
  rw [word, word, read, read']
  refine ⟨rfl, rfl, rfl, related', ?_⟩
  dsimp only
  split
  · simp
  · split
    · simp
    · split <;> simp

theorem color_alike
    (simulation : Simulation alike)
    (related : alike s t) :
    Alike alike (color s) (color t) := by
  rcases (simulation.readWhile Text.isHex related).split with
    ⟨hex, s', t', read, read', related'⟩
  rw [color, color, read, read']
  dsimp only
  cases color? hex <;> exact ⟨rfl, rfl, rfl, related', by simp⟩

theorem hexCode_alike
    (simulation : Simulation alike)
    (count code : Nat)
    (related : alike s t) :
    Both alike (hexCode count code s) (hexCode count code t) := by
  induction count generalizing code s t with
  | zero => exact ⟨rfl, related⟩
  | succ count ih =>
      rw [hexCode, hexCode]
      rcases simulation.next_cases related with
        ⟨atEnd, atEnd'⟩ | ⟨c, s', t', read, read', related'⟩
      · rw [atEnd, atEnd']
        exact ⟨rfl, related⟩
      · rw [read, read']
        dsimp only
        cases Text.digit? 16 c with
        | none => exact ⟨rfl, related'⟩
        | some digit => exact ih _ related'

theorem escaped_alike
    (simulation : Simulation alike)
    (related : alike s t) :
    Both alike (escaped s) (escaped t) := by
  rcases simulation.next_cases related with
    ⟨atEnd, atEnd'⟩ | ⟨c, s', t', read, read', related'⟩
  · rw [escaped, escaped, atEnd, atEnd']
    exact ⟨rfl, related⟩
  · by_cases isCode : c = 'u'
    · subst isCode
      rcases (hexCode_alike simulation 4 0 related').split with
        ⟨code, _, _, coded, coded', related''⟩
      rw [escaped, escaped, read, read']
      simp only [coded, coded']
      cases code with
      | none => exact ⟨rfl, related''⟩
      | some code =>
          dsimp only
          split <;> exact ⟨rfl, related''⟩
    · rw [escaped_of_ne read isCode, escaped_of_ne read' isCode]
      exact ⟨rfl, related'⟩

omit [CharSource τ] in
/-- An escape sets no mark, so none can fail to be honoured. -/
theorem escaped_honoured (s : σ) : (escaped s).1 ≠ .error .staleMark := by
  cases read : next s with
  | none => simp [escaped, read]
  | some step =>
      rcases step with ⟨c, s'⟩
      by_cases isCode : c = 'u'
      · subst isCode
        simp only [escaped, read]
        split
        · split <;> simp
        · simp
      · rw [escaped_of_ne read isCode]
        dsimp only
        split <;> simp

/-- Related sources hold the same string.  The induction is on the rest of the
left one. -/
theorem stringBody_alike
    (simulation : Simulation alike)
    (quote : Char)
    (related : alike s t) :
    (stringBody quote s).1 = (stringBody quote t).1 ∧
      Both alike (stringBody quote s).2 (stringBody quote t).2 ∧
        (stringBody quote s).1 ≠ some .staleMark := by
  fun_induction stringBody quote s generalizing t with
  | case1 s atEnd =>
      rw [stringBody_end (simulation.next_right_none related atEnd)]
      exact ⟨rfl, ⟨rfl, related⟩, by simp⟩
  | case2 s s' read =>
      rcases simulation.next_right related read with ⟨t', read', related'⟩
      rw [stringBody_close read']
      exact ⟨rfl, ⟨rfl, related'⟩, by simp⟩
  | case3 s s' fault rest malformed read notQuote =>
      rcases simulation.next_right related read with ⟨t', read', related'⟩
      rcases (escaped_alike simulation related').right_eq malformed with
        ⟨_, malformed', related''⟩
      have honoured := escaped_honoured s'
      rw [malformed] at honoured
      rw [stringBody_malformed read' notQuote malformed']
      exact ⟨rfl, ⟨rfl, related''⟩, by simpa using honoured⟩
  | case4 s s' meant rest escape fault body last whole read notQuote ih =>
      rcases simulation.next_right related read with ⟨t', read', related'⟩
      rcases (escaped_alike simulation related').right_eq escape with
        ⟨_, escape', related''⟩
      have both := ih related''
      rw [whole] at both
      rw [stringBody_escape read' notQuote escape']
      exact ⟨both.1, ⟨congrArg (meant :: ·) both.2.1.1, both.2.1.2⟩, both.2.2⟩
  | case5 s c s' read notQuote notEscape fault body last whole ih =>
      rcases simulation.next_right related read with ⟨t', read', related'⟩
      have both := ih related'
      rw [whole] at both
      rw [stringBody_plain read' notQuote notEscape]
      exact ⟨both.1, ⟨congrArg (_ :: ·) both.2.1.1, both.2.1.2⟩, both.2.2⟩

theorem string_alike
    (simulation : Simulation alike)
    (quote : Char)
    (related : alike s t) :
    Alike alike (string quote s) (string quote t) := by
  rcases stringBody_alike simulation quote related with ⟨sameFault, both, honoured⟩
  rcases both.split with ⟨body, s', t', left, right, related'⟩
  rw [string, string]
  cases scanned : stringBody quote s with
  | mk fault more =>
      cases scanned' : stringBody quote t with
      | mk fault' more' =>
          rw [scanned] at sameFault left honoured
          rw [scanned'] at sameFault right
          obtain rfl : fault = fault' := sameFault
          obtain rfl : more = (body, s') := left
          obtain rfl : more' = (body, t') := right
          cases fault with
          | none => exact ⟨rfl, rfl, rfl, related', by simp⟩
          | some fault => exact ⟨rfl, rfl, rfl, related', by simpa using honoured⟩

/-! ## Numbers -/

theorem seesRadix_alike
    (simulation : Simulation alike)
    (related : alike s t) :
    Both alike (seesRadix s) (seesRadix t) := by
  rcases (simulation.peek related).split with
    ⟨letter, s', t', seen, seen', related'⟩
  rw [seesRadix, seesRadix, seen, seen']
  cases letter with
  | none => exact ⟨rfl, related'⟩
  | some letter =>
      dsimp only
      cases radix? letter with
      | none => exact ⟨rfl, related'⟩
      | some radix =>
          rcases (simulation.seesNext (Text.isDigit radix) related').split with
            ⟨digit, _, _, seenNext, seenNext', related''⟩
          simp only [seenNext, seenNext']
          exact ⟨rfl, related''⟩

theorem radixNumber_alike
    (simulation : Simulation alike)
    (radix : Nat)
    (sign : Option Char)
    (related : alike s t) :
    Alike alike (radixNumber radix sign s) (radixNumber radix sign t) := by
  rcases (simulation.take related).split with
    ⟨letter, s', t', took, took', related'⟩
  rcases (simulation.readWhile (Text.isDigit radix) related').split with
    ⟨digits, _, _, read, read', related''⟩
  simp only [radixNumber, took, took', read, read']
  split <;> exact ⟨rfl, rfl, rfl, related'', by simp⟩

theorem seesPlaces_alike
    (simulation : Simulation alike)
    (related : alike s t) :
    Both alike (seesPlaces s) (seesPlaces t) := by
  rcases (simulation.sees (· == '.') related).split with
    ⟨point, s₁, t₁, seen, seen', related₁⟩
  simp only [seesPlaces, seen, seen']
  split
  · exact simulation.seesNext Text.isDecimal related₁
  · exact ⟨rfl, related₁⟩

theorem fraction_alike
    (simulation : Simulation alike)
    (related : alike s t) :
    Both alike (fraction s) (fraction t) := by
  rcases (seesPlaces_alike simulation related).split with
    ⟨ahead, s₁, t₁, seen, seen', related₁⟩
  simp only [fraction, seen, seen']
  split
  · rcases (simulation.take related₁).split with
      ⟨point, s₂, t₂, took, took', related₂⟩
    rcases (simulation.readWhile Text.isDecimal related₂).split with
      ⟨digits, _, _, read, read', related₃⟩
    simp only [took, took', read, read']
    exact ⟨rfl, related₃⟩
  · exact ⟨rfl, related₁⟩

/--
The one place where a scanner goes back.  The mark in front of the exponent is
the latest one, so related sources both honour it.
-/
theorem exponent_alike
    (rewinding : Rewinding alike)
    (related : alike s t) :
    Both alike (exponent s) (exponent t) ∧ (exponent s).1 ≠ .error .staleMark := by
  rcases (rewinding.sees (fun c => c == 'e' || c == 'E') related).split with
    ⟨letter, s₁, t₁, seen, seen', related₁⟩
  simp only [exponent, seen, seen']
  split
  · rcases rewinding.rewinds related₁ with ⟨since, simulation, marked, goesBack⟩
    rcases (simulation.take marked).split with
      ⟨letter, s₂, t₂, took, took', since₂⟩
    rcases (simulation.takeIf (fun c => c == '+' || c == '-') since₂).split with
      ⟨sign, s₃, t₃, signed, signed', since₃⟩
    rcases (simulation.sees Text.isDecimal since₃).split with
      ⟨digit, s₄, t₄, digits, digits', since₄⟩
    simp only [took, took', signed, signed', digits, digits']
    split
    · rcases (simulation.readWhile Text.isDecimal since₄).split with
        ⟨run, s₅, t₅, read, read', since₅⟩
      simp only [read, read']
      exact ⟨⟨rfl, (goesBack since₅).1⟩, by simp⟩
    · rcases goesBack since₄ with ⟨_, back, honoured⟩
      cases done : reset (mark s₁).1 s₄ <;> cases done' : reset (mark t₁).1 t₄ <;>
        rw [done, done'] at back
      case none.none => simp [done] at honoured
      case none.some => cases back
      case some.none => cases back
      case some.some =>
        cases back with
        | some again => exact ⟨⟨rfl, again⟩, by simp⟩
  · exact ⟨⟨rfl, related₁⟩, by simp⟩

omit [CharSource σ] [CharSource τ] in
theorem wholeNumber_alike
    (text : List Char)
    (related : alike s t) :
    Alike alike (wholeNumber text s) (wholeNumber text t) := by
  rw [wholeNumber, wholeNumber]
  split <;> exact ⟨rfl, rfl, rfl, related, by simp⟩

omit [CharSource σ] [CharSource τ] in
theorem floatNumber_alike
    (text : List Char)
    (related : alike s t) :
    Alike alike (floatNumber text s) (floatNumber text t) := by
  rw [floatNumber, floatNumber]
  split <;> exact ⟨rfl, rfl, rfl, related, by simp⟩

theorem decimalNumber_alike
    (rewinding : Rewinding alike)
    (head : List Char)
    (related : alike s t) :
    Alike alike (decimalNumber head s) (decimalNumber head t) := by
  rcases (rewinding.readWhile Text.isDecimal related).split with
    ⟨digits, s₁, t₁, read, read', related₁⟩
  rcases (fraction_alike rewinding.toSimulation related₁).split with
    ⟨places, s₂, t₂, part, part', related₂⟩
  rcases exponent_alike rewinding related₂ with ⟨both, honoured⟩
  rcases both.split with ⟨power, s₃, t₃, raised, raised', related₃⟩
  rw [raised] at honoured
  simp only [decimalNumber, read, read', part, part', raised, raised']
  cases power with
  | error fault => exact ⟨rfl, rfl, rfl, related₃, by simpa using honoured⟩
  | ok power =>
      dsimp only
      split
      · exact wholeNumber_alike _ related₃
      · exact floatNumber_alike _ related₃

theorem numberFrom_alike
    (rewinding : Rewinding alike)
    (sign : Option Char)
    (lead : Char)
    (related : alike s t) :
    Alike alike (numberFrom sign lead s) (numberFrom sign lead t) := by
  rw [numberFrom, numberFrom]
  split
  · rcases (seesRadix_alike rewinding.toSimulation related).split with
      ⟨radix, s', t', seen, seen', related'⟩
    rw [seen, seen']
    cases radix with
    | none => exact decimalNumber_alike rewinding _ related'
    | some radix =>
        exact radixNumber_alike rewinding.toSimulation radix sign related'
  · exact decimalNumber_alike rewinding _ related

theorem number_alike
    (rewinding : Rewinding alike)
    (first : Char)
    (related : alike s t) :
    Alike alike (number first s) (number first t) := by
  rw [number, number]
  split
  · exact numberFrom_alike rewinding none first related
  · rcases rewinding.next_cases related with
      ⟨atEnd, atEnd'⟩ | ⟨lead, s', t', read, read', related'⟩
    · rw [atEnd, atEnd']
      exact ⟨rfl, rfl, rfl, related, by simp⟩
    · rw [read, read']
      exact numberFrom_alike rewinding (some first) lead related'

/-! ## Symbols -/

omit [CharSource σ] [CharSource τ] in
theorem single_alike
    (kind : TokenKind)
    (first : Char)
    (related : alike s t) :
    Alike alike (single kind first s) (single kind first t) :=
  ⟨rfl, rfl, rfl, related, by simp [single]⟩

theorem double_alike
    (simulation : Simulation alike)
    (alone : TokenKind)
    (second : Char)
    (both : TokenKind)
    (first : Char)
    (related : alike s t) :
    Alike alike (double alone second both first s)
      (double alone second both first t) := by
  rcases (simulation.takeIf (· == second) related).split with
    ⟨c, s', t', took, took', related'⟩
  rw [double, double, took, took']
  cases c <;> exact ⟨rfl, rfl, rfl, related', by simp⟩

theorem less_alike
    (simulation : Simulation alike)
    (first : Char)
    (related : alike s t) :
    Alike alike (less first s) (less first t) := by
  rcases (simulation.takeIf (· == '=') related).split with
    ⟨c, s', t', took, took', related'⟩
  rw [less, less, took, took']
  cases c with
  | none => exact double_alike simulation _ _ _ _ related'
  | some c =>
      rcases (simulation.takeIf (· == '>') related').split with
        ⟨d, _, _, again, again', related''⟩
      simp only [again, again']
      cases d <;> exact ⟨rfl, rfl, rfl, related'', by simp⟩

theorem symbol_alike
    (simulation : Simulation alike)
    (first : Char)
    (related : alike s t) :
    Alike alike (symbol first s) (symbol first t) := by
  rw [symbol.eq_def first s, symbol.eq_def first t]
  split
  case h_15 => exact less_alike simulation _ related
  all_goals first
    | exact single_alike _ _ related
    | exact double_alike simulation _ _ _ _ related
    | exact ⟨rfl, rfl, rfl, related, by simp⟩

/-! ## All tokens -/

theorem colon_alike
    (simulation : Simulation alike)
    (related : alike s t) :
    Alike alike (colon s) (colon t) := by
  rcases (simulation.sees Text.isNameFirst related).split with
    ⟨named, s', t', seen, seen', related'⟩
  rw [colon, colon, seen, seen']
  cases named with
  | true =>
      rcases (simulation.readWhile Text.isNameNext related').split with
        ⟨run, _, _, read, read', related''⟩
      simp only [read, read']
      exact ⟨rfl, rfl, rfl, related'', by simp⟩
  | false => exact symbol_alike simulation ':' related'

theorem sign_alike
    (rewinding : Rewinding alike)
    (flags : Flags)
    (first : Char)
    (related : alike s t) :
    Alike alike (sign flags first s) (sign flags first t) := by
  rw [sign, sign]
  split
  · exact symbol_alike rewinding.toSimulation first related
  · rcases (rewinding.sees Text.isDecimal related).split with
      ⟨digit, s', t', seen, seen', related'⟩
    rw [seen, seen']
    cases digit with
    | true => exact number_alike rewinding first related'
    | false => exact symbol_alike rewinding.toSimulation first related'

/-- Related sources start with the same token, whatever the options. -/
theorem lex_alike
    (rewinding : Rewinding alike)
    (flags : Flags)
    (related : alike s t) :
    Alike alike (lex flags s) (lex flags t) := by
  have simulation := rewinding.toSimulation
  rw [lex, lex]
  rcases simulation.next_cases related with
    ⟨atEnd, atEnd'⟩ | ⟨c, s', t', read, read', related'⟩
  · rw [atEnd, atEnd']
    exact ⟨rfl, rfl, rfl, related, by simp⟩
  · rw [read, read']
    dsimp only
    split
    · exact string_alike simulation c related'
    split
    · exact colon_alike simulation related'
    split
    · exact color_alike simulation related'
    split
    · exact sign_alike rewinding flags c related'
    split
    · exact number_alike rewinding c related'
    split
    · exact word_alike simulation flags c related'
    · exact symbol_alike simulation c related'

end Scanned

/-! ## Tokenizers -/

/-- The same state over related sources, and no mark that was not honoured. -/
structure Tokenizer.Alike {σ τ : Type}
    (alike : σ → τ → Prop)
    (left : Tokenizer σ)
    (right : Tokenizer τ) :
    Prop where
  source : alike left.source right.source
  token_eq : left.token = right.token
  pending_eq : left.pending = right.pending
  failure_eq : left.failure = right.failure
  honoured : ∀ fault, left.failure = some fault → fault.cause ≠ .staleMark

namespace Tokenizer

variable {σ τ : Type} {alike : σ → τ → Prop}
variable {left : Tokenizer σ} {right : Tokenizer τ}

theorem alike_ofSource
    {s : σ}
    {t : τ}
    (related : alike s t) :
    Alike alike (ofSource s) (ofSource t) :=
  ⟨related, rfl, rfl, rfl, by simp [ofSource]⟩

theorem Alike.unget (same : Alike alike left right) :
    Alike alike left.unget right.unget :=
  ⟨same.source, same.token_eq, congrArg (· + 1) same.pending_eq, same.failure_eq,
    same.honoured⟩

variable [CharSource σ] [CharSource τ]

theorem Alike.scan
    (rewinding : Rewinding alike)
    (flags : Flags)
    (same : Alike alike left right) :
    Alike alike (left.scan flags) (right.scan flags) := by
  rcases (rewinding.readWhile Text.isBlank same.source).split with
    ⟨blanks, s, t, skipped, skipped', related⟩
  have lexed := Scanned.lex_alike rewinding flags related
  have samePlace := rewinding.place related
  simp only [Tokenizer.scan, skipped, skipped', ← lexed.outcome_eq,
    ← lexed.text_eq, ← lexed.literal_eq, ← samePlace]
  cases outcome : (Scanned.lex flags s).outcome with
  | ok kind =>
      exact ⟨lexed.source, rfl, same.pending_eq, same.failure_eq, same.honoured⟩
  | error cause =>
      refine ⟨lexed.source, rfl, same.pending_eq, rfl, ?_⟩
      intro fault found
      have honoured := lexed.honoured
      rw [outcome] at honoured
      obtain rfl := Option.some.inj found
      simpa using honoured

theorem Alike.get
    (rewinding : Rewinding alike)
    (flags : Flags)
    (same : Alike alike left right) :
    Alike alike (left.get flags) (right.get flags) := by
  rw [Tokenizer.get, Tokenizer.get, ← same.pending_eq, ← same.token_eq]
  split
  · exact ⟨same.source, rfl, rfl, same.failure_eq, same.honoured⟩
  · split
    · exact same
    · exact same.scan rewinding flags
    · split
      · exact same.scan rewinding flags
      · exact same

end Tokenizer

end Formula
