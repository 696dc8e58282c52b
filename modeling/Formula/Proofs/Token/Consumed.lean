import Formula.Proofs.Number.NotNaN
import Formula.Proofs.Source.Reads
import Formula.Proofs.Token.Lexemes
import Formula.Proofs.Token.Shapes
import Formula.Token.Tokenizer

/-!
# What a scanner takes from a text

A scanner takes a piece of the text that it stands in front of, and if it finds
a token there, this piece spells the token.  There is one lemma for each scanner;
`lead` are the characters that were read before the scanner was called.
-/

namespace Formula.Scanned

open Text Number

/-- What was read on from `start` is, behind `lead`, what spells the token, if
there is one. -/
def Faithful
    (lead : List Char)
    (start : Reader)
    (scanned : Scanned Reader) : Prop :=
  ∃ chars, start.Reads chars scanned.source ∧
    ∀ kind, scanned.outcome = .ok kind →
      Formed (lead ++ chars) kind scanned.text scanned.literal

variable {lead chars : List Char} {start last : Reader} {scanned : Scanned Reader}

theorem Faithful.malformed
    {fault : ScanError}
    (reads : start.Reads chars scanned.source)
    (failed : scanned.outcome = .error fault) :
    Faithful lead start scanned := by
  refine ⟨chars, reads, fun kind found => ?_⟩
  rw [failed] at found
  cases found

theorem Faithful.formed
    {kind : TokenKind}
    (reads : start.Reads chars scanned.source)
    (found : scanned.outcome = .ok kind)
    (formed : Formed (lead ++ chars) kind scanned.text scanned.literal) :
    Faithful lead start scanned := by
  refine ⟨chars, reads, fun kind' found' => ?_⟩
  obtain rfl := Except.ok.inj (found.symm.trans found')
  exact formed

/-- What was read before the scanner was called may count as read by it. -/
theorem Faithful.cons
    {c : Char}
    {before : Reader}
    (first : before.Reads [c] start)
    (faithful : Faithful (lead ++ [c]) start scanned) :
    Faithful lead before scanned := by
  rcases faithful with ⟨chars, reads, formed⟩
  refine ⟨c :: chars, first.cons reads, fun kind found => ?_⟩
  simpa using formed kind found

/-! ## Words and colors -/

theorem word_faithful
    (flags : Flags)
    {first : Char}
    (starts : isNameFirst first)
    (s : Reader) :
    Faithful [first] s (word flags first s) := by
  have isName :
      IsName (.ofList (first :: (CharSource.readWhile isNameNext s).1)) :=
    ⟨first, _, String.toList_ofList, starts, fun _ => Reader.of_mem_readWhile⟩
  refine ⟨_, Reader.reads_readWhile isNameNext s, fun kind found => ?_⟩
  rw [word] at found
  dsimp only at found
  split at found
  case isTrue =>
      obtain rfl := Except.ok.inj found
      exact .bareword isName
  split at found
  case h_1 kind' reserved =>
      obtain rfl := Except.ok.inj found
      exact .keyword isName (TokenKind.mem_keywords_of_ofWord? reserved)
  split at found
  case isTrue =>
      obtain rfl := Except.ok.inj found
      exact .bareword isName
  case isFalse => cases found

theorem color_faithful (s : Reader) : Faithful ['#'] s (color s) := by
  have reads := Reader.reads_readWhile isHex s
  rw [color]
  dsimp only
  split
  case h_1 n _ =>
      exact .formed reads rfl (.integer (.ofNat n) (List.cons_ne_nil _ _))
  case h_2 => exact .malformed reads rfl

/-! ## Strings -/

/-- The digits of a code point are read, and they are what it is computed from. -/
theorem hexCode_reads
    (count code : Nat)
    (s : Reader) :
    ∃ digits, s.Reads digits (hexCode count code s).2 ∧
      ∀ n, (hexCode count code s).1 = some n →
        digits.length = count ∧ (∀ c ∈ digits, isHex c) ∧
          n = digits.foldl
            (fun sum c => sum * 16 + (digitValue? c).getD 0) code := by
  induction count generalizing code s with
  | zero =>
      refine ⟨[], .refl s, fun n found => ⟨rfl, List.forall_mem_nil _, ?_⟩⟩
      exact (Option.some.inj found).symm
  | succ count ih =>
      rw [hexCode]
      split
      case h_1 => exact ⟨[], .refl s, by simp⟩
      case h_2 c s' read =>
          have first := Reader.reads_of_next read
          split
          case h_2 => exact ⟨[c], first, by simp⟩
          case h_1 digit found =>
              rcases ih (code * 16 + digit) s' with ⟨digits, reads, computed⟩
              refine ⟨c :: digits, first.cons reads, fun n same => ?_⟩
              rcases computed n same with ⟨length, areHex, value⟩
              have counts : digitValue? c = some digit :=
                (Option.filter_eq_some_iff.mp found).1
              have isHex : isHex c := Option.isSome_of_eq_some found
              refine ⟨congrArg (· + 1) length, ?_, ?_⟩
              · rw [List.forall_mem_cons]
                exact ⟨isHex, areHex⟩
              · rw [List.foldl_cons, counts, Option.getD_some, value]

theorem escaped_reads (s : Reader) :
    ∃ run, s.Reads run (escaped s).2 ∧
      ∀ meant, (escaped s).1 = .ok meant → Escape run meant := by
  rw [escaped]
  split
  case h_1 => exact ⟨[], .refl s, by simp⟩
  case h_2 s' read =>
      have first := Reader.reads_of_next read
      rcases hexCode_reads 4 0 s' with ⟨digits, reads, computed⟩
      refine ⟨'u' :: digits, ?_⟩
      split
      case h_1 code rest coded =>
          rw [coded] at reads computed
          rcases computed code rfl with ⟨length, areHex, rfl⟩
          split
          case isTrue valid =>
              refine ⟨first.cons reads, fun meant found => ?_⟩
              obtain rfl := Except.ok.inj found
              exact .code length areHex valid
          case isFalse => exact ⟨first.cons reads, by simp⟩
      case h_2 rest coded =>
          rw [coded] at reads
          exact ⟨first.cons reads, by simp⟩
  case h_3 c s' _ read =>
      have first := Reader.reads_of_next read
      refine ⟨[c], ?_⟩
      split
      case h_1 meant found =>
          refine ⟨first, fun meant' same => ?_⟩
          obtain rfl := Except.ok.inj same
          exact .short (mem_shortEscapes_of_unescape? found)
      case h_2 => exact ⟨first, by simp⟩

/-- A string body ends with its closing quote.  The induction is on the rest of
the text. -/
theorem stringBody_reads
    (quote : Char)
    (s : Reader) :
    ∃ run, s.Reads run (stringBody quote s).2.2 ∧
      ((stringBody quote s).1 = none →
        ∃ body, run = body ++ [quote] ∧
          Quoted quote body (stringBody quote s).2.1) := by
  fun_induction stringBody quote s with
  | case1 s _ => exact ⟨[], .refl s, by simp⟩
  | case2 s s' read =>
      exact ⟨[quote], Reader.reads_of_next read, fun _ => ⟨[], rfl, .empty⟩⟩
  | case3 s s' fault rest meant read =>
      rcases escaped_reads s' with ⟨run, reads, _⟩
      rw [meant] at reads
      exact ⟨'\\' :: run, (Reader.reads_of_next read).cons reads, by simp⟩
  | case4 s s' char rest meant fault body last whole read _ ih =>
      rcases escaped_reads s' with ⟨run, reads, means⟩
      rw [meant] at reads means
      rw [whole] at ih
      rcases ih with ⟨others, readsOthers, closed⟩
      refine ⟨'\\' :: (run ++ others),
        (Reader.reads_of_next read).cons (reads.trans readsOthers),
        fun noFault => ?_⟩
      rcases closed noFault with ⟨inside, rfl, quoted⟩
      refine ⟨'\\' :: run ++ inside, by simp, ?_⟩
      exact .escape (means char rfl) quoted
  | case5 s c s' read notQuote notEscape fault body last whole ih =>
      rw [whole] at ih
      rcases ih with ⟨others, readsOthers, closed⟩
      refine ⟨c :: others, (Reader.reads_of_next read).cons readsOthers,
        fun noFault => ?_⟩
      rcases closed noFault with ⟨inside, rfl, quoted⟩
      exact ⟨c :: inside, rfl, .plain notQuote notEscape quoted⟩

theorem string_faithful
    {quote : Char}
    (isQuote : quote = '\'' ∨ quote = '"')
    (s : Reader) :
    Faithful [quote] s (string quote s) := by
  rcases stringBody_reads quote s with ⟨run, reads, closed⟩
  rw [string]
  split
  case h_1 text rest scanned =>
      rw [scanned] at reads closed
      rcases closed rfl with ⟨body, rfl, quoted⟩
      exact .formed reads rfl (.string isQuote quoted)
  case h_2 fault text rest scanned =>
      rw [scanned] at reads
      exact .malformed reads rfl

/-! ## Numbers -/

@[simp]
theorem snd_seesRadix (s : Reader) : (seesRadix s).2 = s := by
  rw [seesRadix]
  split <;> rename_i seen <;> obtain rfl := congrArg Prod.snd seen
  · rfl
  · split
    · rfl
    · exact Reader.snd_seesNext _ _

/-- A reader looks ahead without moving. -/
@[simp]
theorem seesPlaces_eq (past rest : List Char) :
    seesPlaces (⟨past, rest⟩ : Reader) =
      (rest[0]?.any (· == '.') && rest[1]?.any isDecimal, ⟨past, rest⟩) := by
  simp only [seesPlaces, Reader.sees_eq, Reader.seesNext_eq]
  cases rest[0]?.any (· == '.') <;> rfl

theorem fraction_reads (s : Reader) : s.Reads (fraction s).1 (fraction s).2 := by
  rcases s with ⟨past, rest⟩
  simp only [fraction, seesPlaces_eq]
  split
  · exact (Reader.reads_take _).trans (Reader.reads_readWhile _ _)
  · exact .refl _

/-- A reader always goes back to the mark in front of an exponent. -/
theorem exponent_reads (s : Reader) :
    ∃ power, (exponent s).1 = .ok power ∧ s.Reads power (exponent s).2 := by
  rw [exponent]
  simp only [Reader.snd_sees, Reader.snd_mark]
  split
  case isFalse => exact ⟨[], rfl, .refl s⟩
  case isTrue =>
      have signed := (Reader.reads_take s).trans
        (Reader.reads_takeIf (fun c => c == '+' || c == '-') (CharSource.take s).2)
      split
      case isTrue => exact ⟨_, rfl, signed.trans (Reader.reads_readWhile _ _)⟩
      case isFalse =>
          have back := Reader.reset_mark_of_reads signed
          rw [back]
          exact ⟨[], rfl, .refl s⟩

theorem wholeNumber_faithful
    (reads : start.Reads chars last)
    (nonempty : lead ≠ []) :
    Faithful lead start (wholeNumber (lead ++ chars) last) := by
  have nonempty' : lead ++ chars ≠ [] :=
    List.append_ne_nil_of_left_ne_nil nonempty chars
  rw [wholeNumber]
  split
  case h_1 n _ => exact .formed reads rfl (.integer n nonempty')
  case h_2 => exact .malformed reads rfl

theorem floatNumber_faithful
    (reads : start.Reads chars last)
    (nonempty : lead ≠ []) :
    Faithful lead start (floatNumber (lead ++ chars) last) := by
  have nonempty' : lead ++ chars ≠ [] :=
    List.append_ne_nil_of_left_ne_nil nonempty chars
  rw [floatNumber]
  split
  case h_1 x found =>
      rcases Option.map_eq_some_iff.mp found with ⟨decimal, _, rfl⟩
      exact .formed reads rfl (.float nonempty' decimal.isNaN_toFloat)
  case h_2 => exact .malformed reads rfl

theorem decimalNumber_faithful
    (nonempty : lead ≠ [])
    (s : Reader) :
    Faithful lead s (decimalNumber lead s) := by
  have whole := Reader.reads_readWhile isDecimal s
  have places := fraction_reads (CharSource.readWhile isDecimal s).2
  rcases exponent_reads (fraction (CharSource.readWhile isDecimal s).2).2 with
    ⟨power, found, reads⟩
  have all := whole.trans (places.trans reads)
  have outcome := Prod.ext (y := (Except.ok power, _)) found rfl
  rw [decimalNumber]
  dsimp only
  rw [outcome]
  simp only [List.append_assoc]
  split
  · exact wholeNumber_faithful all nonempty
  · exact floatNumber_faithful all nonempty

theorem radixNumber_faithful
    (radix : Nat)
    (sign : Option Char)
    (s : Reader) :
    Faithful (sign.toList ++ ['0']) s (radixNumber radix sign s) := by
  have reads := (Reader.reads_take s).trans
    (Reader.reads_readWhile (isDigit radix) (CharSource.take s).2)
  rw [radixNumber]
  dsimp only
  split
  · refine .formed reads rfl ?_
    have same : sign.toList ++ ['0'] ++
        ((CharSource.take s).1.toList ++
          (CharSource.readWhile (isDigit radix) (CharSource.take s).2).1) =
        sign.toList ++ '0' :: (CharSource.take s).1.toList ++
          (CharSource.readWhile (isDigit radix) (CharSource.take s).2).1 := by
      simp
    rw [same]
    exact .integer _ (by simp)
  · exact .malformed reads rfl

theorem numberFrom_faithful
    (sign : Option Char)
    (first : Char)
    (s : Reader) :
    Faithful (sign.toList ++ [first]) s (numberFrom sign first s) := by
  have nonempty : sign.toList ++ [first] ≠ [] := by simp
  rw [numberFrom]
  split
  case isFalse => exact decimalNumber_faithful nonempty s
  case isTrue isZero =>
      subst isZero
      have stays := snd_seesRadix s
      split <;> rename_i seen <;> rw [seen] at stays <;> obtain rfl := stays
      · exact radixNumber_faithful _ sign _
      · exact decimalNumber_faithful nonempty _

theorem number_faithful
    (first : Char)
    (s : Reader) :
    Faithful [first] s (number first s) := by
  rw [number]
  split
  case isTrue => exact numberFrom_faithful none first s
  case isFalse =>
      split
      case h_1 digit s' read =>
          exact .cons (Reader.reads_of_next read)
            (numberFrom_faithful (some first) digit s')
      case h_2 => exact .malformed (.refl s) rfl

/-! ## Symbols -/

section Symbols

variable {kind both : TokenKind} {first second : Char}

theorem single_faithful
    (isSymbol : (.ofList [first], kind) ∈ TokenKind.symbols)
    (s : Reader) :
    Faithful [first] s (single kind first s) :=
  .formed (.refl s) rfl (.symbol isSymbol)

theorem double_faithful
    (isSymbol : (.ofList [first], kind) ∈ TokenKind.symbols)
    (areSymbol : (.ofList [first, second], both) ∈ TokenKind.symbols)
    (s : Reader) :
    Faithful [first] s (double kind second both first s) := by
  have reads := Reader.reads_takeIf (· == second) s
  rw [double]
  split
  case h_1 c s' taken =>
      obtain rfl : c = second := by simpa using Reader.of_takeIf taken
      rw [taken] at reads
      exact .formed reads rfl (.symbol areSymbol)
  case h_2 s' taken =>
      rw [taken] at reads
      exact .formed reads rfl (.symbol isSymbol)

end Symbols

theorem less_faithful (s : Reader) : Faithful ['<'] s (less '<' s) := by
  have reads := Reader.reads_takeIf (· == '=') s
  rw [less]
  split
  case h_1 c s' taken =>
      obtain rfl : c = '=' := by simpa using Reader.of_takeIf taken
      rw [taken] at reads
      have further := Reader.reads_takeIf (· == '>') s'
      split
      case h_1 d s'' took =>
          obtain rfl : d = '>' := by simpa using Reader.of_takeIf took
          rw [took] at further
          have all : s.Reads ['=', '>'] s'' := reads.trans further
          exact .formed all rfl (.symbol (by decide))
      case h_2 s'' took =>
          rw [took] at further
          have all : s.Reads ['='] s'' := reads.trans further
          exact .formed all rfl (.symbol (by decide))
  case h_2 s' taken =>
      rw [taken] at reads
      obtain rfl := reads.eq_of_nil
      exact double_faithful (by decide) (by decide) _

theorem symbol_faithful
    (first : Char)
    (s : Reader) :
    Faithful [first] s (symbol first s) := by
  rw [symbol.eq_def]
  split
  case h_15 => exact less_faithful s
  case h_23 => exact .malformed (.refl s) rfl
  all_goals first
    | exact single_faithful (by decide) s
    | exact double_faithful (by decide) (by decide) s

/-! ## All tokens -/

theorem colon_faithful (s : Reader) : Faithful [':'] s (colon s) := by
  rcases s with ⟨past, rest⟩
  rw [colon, Reader.sees_eq]
  cases starts : rest[0]?.any isNameFirst with
  | false => exact symbol_faithful ':' _
  | true =>
      rcases rest with _ | ⟨first, rest⟩
      · cases starts
      · have reads := Reader.reads_readWhile isNameNext ⟨past, first :: rest⟩
        have isName : IsName
            (.ofList (CharSource.readWhile isNameNext
              (⟨past, first :: rest⟩ : Reader)).1) := by
          rw [Reader.readWhile_eq,
            List.takeWhile_cons_of_pos (isNameNext_of_isNameFirst starts)]
          refine ⟨first, _, String.toList_ofList, starts, fun c isMember => ?_⟩
          exact List.all_eq_true.mp List.all_takeWhile c isMember
        exact .formed reads rfl (.identifier isName)

theorem sign_faithful
    (flags : Flags)
    (first : Char)
    (s : Reader) :
    Faithful [first] s (sign flags first s) := by
  rw [sign]
  split
  case isTrue => exact symbol_faithful first s
  case isFalse =>
      have stays := Reader.snd_sees isDecimal s
      split <;> rename_i seen <;> rw [seen] at stays <;> obtain rfl := stays
      · exact number_faithful first _
      · exact symbol_faithful first _

/-- Every token is its first character and what a scanner takes behind it. -/
theorem lex_faithful
    (flags : Flags)
    (past rest : List Char)
    (c : Char) :
    Faithful [c] ⟨c :: past, rest⟩ (lex flags (⟨past, c :: rest⟩ : Reader)) := by
  rw [lex_cons]
  split
  case isTrue isQuote => exact string_faithful isQuote _
  split
  case isTrue isColon => exact isColon ▸ colon_faithful _
  split
  case isTrue isNumberSign => exact isNumberSign ▸ color_faithful _
  split
  · exact sign_faithful flags c _
  split
  · exact number_faithful c _
  split
  case isTrue starts => exact word_faithful flags starts _
  case isFalse => exact symbol_faithful c _

/-- The kind of what was scanned, malformed or not. -/
def kind {σ : Type} (scanned : Scanned σ) : TokenKind :=
  match scanned.outcome with
  | .ok kind => kind
  | .error _ => .error

theorem outcome_eq_of_kind
    {σ : Type}
    {scanned : Scanned σ}
    (wellFormed : scanned.kind ≠ .error) :
    scanned.outcome = .ok scanned.kind := by
  cases outcome : scanned.outcome with
  | ok kind => rw [Scanned.kind, outcome]
  | error fault =>
      rw [Scanned.kind, outcome] at wellFormed
      exact absurd rfl wellFormed

/-- A lexeme is read in front of every text, and it spells the token unless this is
malformed.  It is empty behind the last character alone. -/
theorem exists_lexeme
    (flags : Flags)
    (start : Reader) :
    ∃ lexeme, start.Reads lexeme (lex flags start).source ∧
      (lexeme = [] ↔ (lex flags start).kind = .endOfInput) ∧
      ((lex flags start).kind = .endOfInput → (lex flags start).source.rest = []) ∧
      ((lex flags start).kind ≠ .error →
        Formed lexeme (lex flags start).kind (lex flags start).text
          (lex flags start).literal) := by
  rcases start with ⟨past, _ | ⟨c, rest⟩⟩
  · rw [lex_nil]
    exact ⟨[], .refl _, ⟨fun _ => rfl, fun _ => rfl⟩, fun _ => rfl,
      fun _ => .endOfInput⟩
  · rcases lex_faithful flags past rest c with ⟨chars, reads, formed⟩
    refine ⟨c :: chars, (Reader.reads_cons past rest c).cons reads, ?_⟩
    rw [kind]
    cases outcome : (lex flags (⟨past, c :: rest⟩ : Reader)).outcome with
    | error fault =>
        exact ⟨⟨nofun, nofun⟩, nofun, fun wellFormed => absurd rfl wellFormed⟩
    | ok kind =>
        have spells := formed kind outcome
        have notEnd : kind ≠ .endOfInput := fun isEnd =>
          absurd (spells.eq_nil_iff.mpr isEnd) (List.cons_ne_nil c chars)
        exact ⟨spells.eq_nil_iff, fun isEnd => absurd isEnd notEnd,
          fun _ => spells⟩

end Formula.Scanned

namespace Formula.Tokenizer

open Text

theorem token_scan {σ : Type} [CharSource σ]
    (flags : Flags)
    (tokenizer : Tokenizer σ) :
    (tokenizer.scan flags).token =
      let start := (CharSource.readWhile isBlank tokenizer.source).2
      let scanned := Scanned.lex flags start
      ⟨scanned.kind, String.ofList scanned.text, scanned.literal,
        CharSource.place start⟩ := by
  rw [scan]
  dsimp only [Scanned.kind]
  cases (Scanned.lex flags
    (CharSource.readWhile isBlank tokenizer.source).2).outcome <;> rfl

/-- A token that is read is malformed, or some lexeme spells it. -/
theorem exists_formed
    (flags : Flags)
    (tokenizer : Tokenizer Reader) :
    (tokenizer.scan flags).token.kind = .error ∨
      ∃ lexeme, Formed lexeme (tokenizer.scan flags).token.kind
        (tokenizer.scan flags).token.text.toList
        (tokenizer.scan flags).token.literal := by
  rw [token_scan]
  dsimp only
  rw [String.toList_ofList]
  rcases Scanned.exists_lexeme flags
    (CharSource.readWhile isBlank tokenizer.source).2 with
    ⟨lexeme, _, _, _, formed⟩
  by_cases malformed :
      (Scanned.lex flags (CharSource.readWhile isBlank tokenizer.source).2).kind =
        .error
  · exact .inl malformed
  · exact .inr ⟨lexeme, formed malformed⟩

end Formula.Tokenizer
