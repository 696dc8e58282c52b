import Formula.Proofs.Token.Numbers
import Formula.Proofs.Token.Simulation

/-!
# Tokens in front of a stop

A token is decided by its own characters, and by what follows it as far as it
could go on with it.  So it is the same in front of a text that is cut short
by a stop: the end of the text, a blank or a semicolon.  There is one lemma
for each scanner.  A sign is a stop for all tokens but numbers, which can go
on with one in their exponent.
-/

namespace Formula

namespace Text

/-- The characters, other than those of names, that a symbol or a number may go on
with. -/
def joining : List Char :=
  ['.', '+', '-', '&', '|', '^', '=', '>', '*']

/-- Nothing is in front that a token could go on with, unless it is a string. -/
def Stops (rest : List Char) : Prop :=
  ∀ c, rest[0]? = some c → isNameNext c = false ∧ c ∉ joining

/-- Nothing is in front that belongs to a name or is one of some marks. -/
def StopsAt (marks rest : List Char) : Prop :=
  ∀ c, rest[0]? = some c → isNameNext c = false ∧ c ∉ marks

/-- A test that is only passed by the characters of names and by some marks. -/
def ContinuesAt (marks : List Char) (p : Char → Bool) : Prop :=
  ∀ c, p c → isNameNext c ∨ c ∈ marks

/-- The marks that make a symbol of one character a longer one. -/
def seconds : List Char :=
  ['&', '|', '^', '=', '>', '*']

theorem stops_nil : Stops [] := by
  intro c impossible
  cases impossible

theorem stops_semicolon (rest : List Char) : Stops (';' :: rest) := by
  intro c first
  obtain rfl := Option.some.inj first
  decide

theorem stops_of_blank
    {c : Char}
    (blank : isBlank c)
    (rest : List Char) :
    Stops (c :: rest) := by
  have notBlank : joining.all (!isBlank ·) = true := by decide
  intro d first
  obtain rfl := Option.some.inj first
  refine ⟨isNameNext_of_isBlank blank, fun isJoining => ?_⟩
  have notBlank' := List.all_eq_true.mp notBlank c isJoining
  simp [blank] at notBlank'

section

variable {marks : List Char}

theorem StopsAt.any_eq_false
    {rest : List Char}
    {p : Char → Bool}
    (stops : StopsAt marks rest)
    (continues : ContinuesAt marks p) :
    rest[0]?.any p = false := by
  cases first : rest[0]? with
  | none => rfl
  | some c =>
      rcases stops c first with ⟨notName, notMark⟩
      rw [Option.any_some, ← Bool.not_eq_true]
      intro holds
      rcases continues c holds with inName | isMark
      · simp [notName] at inName
      · exact notMark isMark

theorem continues_isNameNext : ContinuesAt marks isNameNext :=
  fun _ => Or.inl

theorem continues_isNameFirst : ContinuesAt marks isNameFirst :=
  fun _ starts => .inl (isNameNext_of_isNameFirst starts)

theorem continues_isDigit (radix : Nat) : ContinuesAt marks (isDigit radix) :=
  fun _ digit => .inl (isNameNext_of_isDigit digit)

theorem continues_beq
    {c : Char}
    (isMark : c ∈ marks) :
    ContinuesAt marks (· == c) := by
  intro d same
  obtain rfl := beq_iff_eq.mp same
  exact .inr isMark

end

theorem Stops.any_eq_false
    {rest : List Char}
    {p : Char → Bool}
    (stops : Stops rest)
    (continues : ContinuesAt joining p) :
    rest[0]?.any p = false :=
  StopsAt.any_eq_false stops continues

/-- One text is like the other up to a stop, where it ends or goes on in another
way. -/
def Stopped (tail tail' : List Char) : Prop :=
  ∃ more rest rest', tail = more ++ rest ∧ tail' = more ++ rest' ∧ Stops rest'

/-- One text is like the other up to where it ends or goes on with none of some
marks. -/
def StoppedAt (marks tail tail' : List Char) : Prop :=
  ∃ more rest rest', tail = more ++ rest ∧ tail' = more ++ rest' ∧
    StopsAt marks rest'

theorem Stopped.append
    {tail tail' : List Char}
    (front : List Char)
    (stopped : Stopped tail tail') :
    Stopped (front ++ tail) (front ++ tail') := by
  rcases stopped with ⟨more, rest, rest', rfl, rfl, stops⟩
  exact ⟨front ++ more, rest, rest', by simp, by simp, stops⟩

theorem StoppedAt.any_eq_false
    {marks tail tail' : List Char}
    {p : Char → Bool}
    (stopped : StoppedAt marks tail tail')
    (continues : ContinuesAt marks p)
    (fails : tail[0]?.any p = false) :
    tail'[0]?.any p = false := by
  rcases stopped with ⟨more, rest, rest', rfl, rfl, stops⟩
  cases more with
  | nil => exact stops.any_eq_false continues
  | cons c more => exact fails

/-- If the texts of a language consist of what a token can go on with, the
longest of them is the same in front of a text that is stopped. -/
theorem LongestPrefix.of_stopped
    {language : List Char → Prop}
    {lexeme tail tail' : List Char}
    (continues : ∀ text, language text → ∀ c ∈ text, isNameNext c ∨ c ∈ joining)
    (stopped : Stopped tail tail')
    (longest : LongestPrefix language (lexeme ++ tail) lexeme tail) :
    LongestPrefix language (lexeme ++ tail') lexeme tail' where
  text_eq := rfl
  isMember := longest.isMember
  longest longer behind text_eq isMember := by
    rcases stopped with ⟨more, rest, rest', rfl, rfl, stops⟩
    rw [← List.append_assoc] at text_eq
    rcases List.append_eq_append_iff.mp text_eq with
      ⟨beyond, rfl, isRest⟩ | ⟨short, isShort, _⟩
    · cases beyond with
      | nil => exact longest.longest _ rest (by simp) isMember
      | cons c beyond =>
          have inLonger : c ∈ lexeme ++ more ++ c :: beyond := by simp
          rcases stops c (isRest ▸ rfl) with ⟨notName, notJoining⟩
          rcases continues _ isMember c inLonger with inName | isJoining
          · simp [notName] at inName
          · exact absurd isJoining notJoining
    · refine longest.longest longer (short ++ rest) ?_ isMember
      rw [← List.append_assoc, isShort, List.append_assoc]

end Text

open Text Number

/-! ## Runs -/

/-- A run that ends at some text consists of what passes the test, and the
text does not begin with any. -/
theorem Reader.readWhile_of_rest
    {p : Char → Bool}
    {past front tail : List Char}
    (ends :
      (CharSource.readWhile p (⟨past, front ++ tail⟩ : Reader)).2.rest = tail) :
    (∀ c ∈ front, p c) ∧ tail[0]?.any p = false := by
  have reads := Reader.reads_readWhile p ⟨past, front ++ tail⟩
  have isFront := reads.rest_eq
  rw [ends] at isFront
  rw [Reader.readWhile_eq] at ends
  constructor
  · rw [List.append_cancel_right isFront]
    exact fun c => Reader.of_mem_readWhile
  · have first := List.head?_dropWhile_not p (front ++ tail)
    rw [← ends, ← List.head?_eq_getElem?]
    cases found : ((front ++ tail).dropWhile p).head? with
    | none => rfl
    | some c =>
        rw [found] at first
        exact first

/-- So it is the same run in front of a text that is stopped. -/
theorem Reader.readWhile_of_stopped
    {p : Char → Bool}
    {marks past front tail tail' : List Char}
    (stopped : StoppedAt marks tail tail')
    (continues : ContinuesAt marks p)
    (ends :
      (CharSource.readWhile p (⟨past, front ++ tail⟩ : Reader)).2.rest = tail)
    (past' : List Char) :
    CharSource.readWhile p (⟨past', front ++ tail'⟩ : Reader) =
      ((CharSource.readWhile p (⟨past, front ++ tail⟩ : Reader)).1,
        ⟨front.reverse ++ past', tail'⟩) := by
  rcases Reader.readWhile_of_rest ends with ⟨belongs, fails⟩
  rw [Reader.readWhile_append past tail belongs fails,
    Reader.readWhile_append past' tail' belongs
      (stopped.any_eq_false continues fails)]

/-- A character that is taken in front of a text is taken in front of a stopped
one. -/
theorem Reader.takeIf_of_stopped
    {p : Char → Bool}
    {marks past front tail tail' : List Char}
    (stopped : StoppedAt marks tail tail')
    (continues : ContinuesAt marks p)
    (within : ∃ more,
      (CharSource.takeIf p (⟨past, front ++ tail⟩ : Reader)).2.rest = more ++ tail)
    (past' : List Char) :
    ∃ (taken : Option Char) (front' : List Char), front = taken.toList ++ front' ∧
      CharSource.takeIf p (⟨past, front ++ tail⟩ : Reader) =
          (taken, ⟨taken.toList ++ past, front' ++ tail⟩) ∧
        CharSource.takeIf p (⟨past', front ++ tail'⟩ : Reader) =
          (taken, ⟨taken.toList ++ past', front' ++ tail'⟩) := by
  cases front with
  | cons c front =>
      cases holds : p c with
      | true =>
          exact ⟨some c, front, rfl, Reader.takeIf_cons_pos past _ holds,
            Reader.takeIf_cons_pos past' _ holds⟩
      | false =>
          exact ⟨none, c :: front, rfl, Reader.takeIf_neg past _ holds,
            Reader.takeIf_neg past' _ holds⟩
  | nil =>
      have fails : tail[0]?.any p = false := by
        rw [← Bool.not_eq_true]
        intro holds
        rcases within with ⟨more, isRest⟩
        rcases tail with _ | ⟨c, tail⟩
        · cases holds
        · rw [List.nil_append, Reader.takeIf_cons_pos past tail holds] at isRest
          have sameLength := congrArg List.length isRest
          simp only [List.length_append, List.length_cons] at sameLength
          omega
      exact ⟨none, [], rfl, Reader.takeIf_neg past tail fails,
        Reader.takeIf_neg past' tail' (stopped.any_eq_false continues fails)⟩

/-! ## Scanners -/

/-- The texts of numbers consist of what a token can go on with. -/
theorem Number.NumberText.continues
    {lexeme : List Char}
    (isNumber : NumberText lexeme) :
    ∀ c ∈ lexeme, isNameNext c ∨ c ∈ joining := by
  have ofSign :
      ∀ {sign}, Signed sign → ∀ c ∈ sign, isNameNext c ∨ c ∈ joining := by
    intro sign signed c isMember
    rcases signed.mem isMember with rfl | rfl <;> exact .inr (by decide)
  have ofDigit : ∀ {radix c}, isDigit radix c → isNameNext c ∨ c ∈ joining :=
    fun digit => continues_isDigit _ _ digit
  intro c isMember
  cases isNumber with
  | radix signed isBase nonempty belongs =>
      simp only [List.mem_append, List.mem_cons] at isMember
      rcases isMember with inSign | rfl | rfl | inDigits
      · exact ofSign signed c inSign
      · exact .inl (by decide)
      · exact continues_isNameFirst _ (isNameFirst_of_mem_bases _ isBase)
      · exact ofDigit (belongs c inDigits)
  | decimal spelling =>
      rcases spelling with
        ⟨sign, whole, places, power, signed, digits, hasPlaces, hasPower⟩
      simp only [Spelling.chars, List.mem_append] at isMember
      rcases isMember with inSign | inWhole | inPlaces | inPower
      · exact ofSign signed c inSign
      · exact ofDigit (digits.isDecimal c inWhole)
      · cases hasPlaces with
        | none => cases inPlaces
        | some digits =>
            rcases List.mem_cons.mp inPlaces with rfl | inRun
            · exact .inr (by decide)
            · exact ofDigit (digits.isDecimal c inRun)
      · cases hasPower with
        | none => cases inPower
        | some isLetter signed digits =>
            simp only [List.mem_cons, List.mem_append] at inPower
            rcases inPower with rfl | inSign | inRun
            · rcases isLetter with rfl | rfl <;> exact .inl (by decide)
            · exact ofSign signed c inSign
            · exact ofDigit (digits.isDecimal c inRun)

/-- A number begins with a digit, behind a sign or not. -/
theorem Number.NumberText.exists_lead
    {lexeme : List Char}
    (isNumber : NumberText lexeme) :
    ∃ sign lead rest, Signed sign ∧ isDecimal lead ∧
      lexeme = sign ++ lead :: rest := by
  cases isNumber with
  | radix signed isBase nonempty belongs => exact ⟨_, '0', _, signed, rfl, rfl⟩
  | decimal spelling =>
      rcases spelling with
        ⟨sign, _ | ⟨lead, run⟩, places, power, signed, digits, _, _⟩
      · exact absurd rfl digits.nonempty
      · exact ⟨sign, lead, run ++ places ++ power, signed,
          digits.isDecimal lead List.mem_cons_self, by simp [Spelling.chars]⟩

namespace Scanned

theorem source_ofNumber
    {σ : Type}
    (lexeme : List Char)
    (numeral : Option Numeral)
    (s : σ) :
    (ofNumber lexeme numeral s).source = s := by
  rcases numeral with _ | _ | _ <;> rfl

variable {marks past front tail tail' : List Char}

/-- What was scanned up to some text is scanned in the same way in front of
another. -/
def Kept
    (scanner : Reader → Scanned Reader)
    (front tail tail' : List Char) :
    Prop :=
  ∀ past past', (scanner ⟨past, front ++ tail⟩).source.rest = tail →
    scanner ⟨past', front ++ tail'⟩ =
      { scanner ⟨past, front ++ tail⟩ with
        source := ⟨front.reverse ++ past', tail'⟩ }

section

variable (stopped : StoppedAt marks tail tail')
include stopped

theorem word_kept
    (flags : Flags)
    (first : Char) :
    Kept (word flags first) front tail tail' := by
  intro past past' ends
  rw [word, word,
    Reader.readWhile_of_stopped stopped continues_isNameNext ends past']

theorem color_kept : Kept color front tail tail' := by
  intro past past' ends
  have ends' :
      (CharSource.readWhile isHex (⟨past, front ++ tail⟩ : Reader)).2.rest =
        tail := by
    rw [color] at ends
    dsimp only at ends
    split at ends <;> exact ends
  have continues : ContinuesAt marks isHex := continues_isDigit 16
  rw [color, color, Reader.readWhile_of_stopped stopped continues ends' past']
  dsimp only
  cases color? (CharSource.readWhile isHex (⟨past, front ++ tail⟩ : Reader)).1 <;>
    rfl

/-! ### Symbols -/

omit stopped in
theorem single_kept
    (kind : TokenKind)
    (first : Char) :
    Kept (single kind first) front tail tail' := by
  intro past past' ends
  obtain rfl : front = [] := List.append_left_eq_self.mp ends
  rfl

omit stopped in
/-- A symbol of two characters ends where the second one was looked for. -/
theorem source_double
    (alone both : TokenKind)
    (first second : Char)
    (s : Reader) :
    (double alone second both first s).source =
      (CharSource.takeIf (· == second) s).2 := by
  rw [double]
  split <;> simp [*]

theorem double_kept
    {second : Char}
    (isMark : second ∈ marks)
    (alone both : TokenKind)
    (first : Char) :
    Kept (double alone second both first) front tail tail' := by
  intro past past' ends
  rw [source_double] at ends
  rcases Reader.takeIf_of_stopped stopped (continues_beq isMark)
    ⟨[], ends⟩ past' with
    ⟨taken, front', rfl, took, took'⟩
  rw [took] at ends
  obtain rfl : front' = [] := List.append_left_eq_self.mp ends
  rw [double, double, took, took']
  cases taken <;> rfl

omit stopped in
theorem source_less
    (first : Char)
    (s : Reader) :
    (less first s).source =
      (CharSource.takeIf (· == '>') (CharSource.takeIf (· == '=') s).2).2 := by
  rw [less]
  split
  case h_1 took =>
    rw [took]
    dsimp only
    split <;> simp [*]
  case h_2 took => rw [took, source_double]

theorem less_kept
    (joins : seconds ⊆ marks)
    (first : Char) :
    Kept (less first) front tail tail' := by
  intro past past' ends
  rw [source_less] at ends
  have within := (Reader.reads_takeIf (· == '>')
    (CharSource.takeIf (· == '=') (⟨past, front ++ tail⟩ : Reader)).2).rest_eq
  rw [ends] at within
  rcases Reader.takeIf_of_stopped stopped (continues_beq (joins (by decide)))
    ⟨_, within⟩ past' with
    ⟨taken, front', rfl, took, took'⟩
  rw [took] at ends
  rcases Reader.takeIf_of_stopped stopped
    (continues_beq (joins (by decide))) ⟨[], ends⟩
    (taken.toList ++ past') with ⟨further, front'', rfl, again, again'⟩
  rw [again] at ends
  obtain rfl : front'' = [] := List.append_left_eq_self.mp ends
  rw [less, less, took, took']
  cases taken with
  | none =>
      dsimp only
      rw [double, double, again, again']
      cases further <;> rfl
  | some c =>
      dsimp only
      rw [again, again']
      cases further <;> simp

theorem symbol_kept
    (joins : seconds ⊆ marks)
    (first : Char) :
    Kept (symbol first) front tail tail' := by
  intro past past'
  rw [symbol.eq_def first, symbol.eq_def first]
  split
  case h_15 => exact less_kept stopped joins _ past past'
  case h_23 =>
    intro ends
    obtain rfl : front = [] := List.append_left_eq_self.mp ends
    rfl
  all_goals first
    | exact single_kept _ _ past past'
    | exact double_kept stopped (joins (by decide)) _ _ _ past past'

theorem colon_kept : Kept colon front tail tail' := by
  intro past past' ends
  rw [colon, Reader.sees_eq] at ends
  rw [colon, colon, Reader.sees_eq, Reader.sees_eq]
  cases starts : (front ++ tail)[0]?.any isNameFirst with
  | true =>
      rw [starts] at ends
      have isName := (Reader.readWhile_of_rest ends).2
      have sameStart : (front ++ tail')[0]?.any isNameFirst = true := by
        cases front with
        | cons c front => exact starts
        | nil =>
            rcases tail with _ | ⟨c, tail⟩
            · cases starts
            · have inName := isNameNext_of_isNameFirst starts
              exact absurd inName (Bool.not_eq_true _ ▸ isName)
      rw [sameStart]
      dsimp only
      rw [Reader.readWhile_of_stopped stopped continues_isNameNext ends past']
  | false =>
      rw [starts] at ends
      obtain rfl : front = [] := List.append_left_eq_self.mp ends
      have fails : ([] ++ tail')[0]?.any isNameFirst = false :=
        stopped.any_eq_false continues_isNameFirst starts
      rw [fails]
      rfl

/-- A sign that belongs to no number is an operator, in front of both texts. -/
theorem sign_kept
    (joins : seconds ⊆ marks)
    {flags : Flags}
    (noDigit :
      flags.splitSigns = false → (front ++ tail)[0]?.any isDecimal = false)
    {first : Char}
    (isSign : first = '+' ∨ first = '-') :
    Kept (sign flags first) front tail tail' := by
  have isSymbol : ∀ {past rest},
      (flags.splitSigns = false → rest[0]?.any isDecimal = false) →
        sign flags first (⟨past, rest⟩ : Reader) = symbol first ⟨past, rest⟩ := by
    intro past rest noDigit
    rw [sign, Reader.sees_eq]
    split
    case isTrue => rfl
    case isFalse notSplit => rw [noDigit (Bool.not_eq_true _ ▸ notSplit)]
  intro past past' ends
  rw [isSymbol noDigit] at ends ⊢
  obtain rfl : front = [] := by
    rcases isSign with rfl | rfl <;> exact List.append_left_eq_self.mp ends
  have noDigit' :
      flags.splitSigns = false → ([] ++ tail')[0]?.any isDecimal = false :=
    fun notSplit => stopped.any_eq_false (continues_isDigit 10) (noDigit notSplit)
  rw [isSymbol noDigit']
  exact symbol_kept stopped joins first past past' ends

/-! ### Numbers -/

omit stopped in
theorem noDigit_of_not_startsNumber
    {flags : Flags}
    {first : Char}
    {rest : List Char}
    (notNumber : ¬ StartsNumber flags (first :: rest)) :
    isDecimal first = false ∧
      (first = '+' ∨ first = '-' → flags.splitSigns = false →
        rest[0]?.any isDecimal = false) := by
  constructor
  · rw [← Bool.not_eq_true]
    exact fun digit => notNumber ⟨[], first, rest, .none, .inl rfl, digit, rfl⟩
  · intro isSign notSplit
    have signed : Signed [first] := by
      rcases isSign with rfl | rfl
      · exact .plus
      · exact .minus
    rw [← Bool.not_eq_true]
    intro digit
    rcases rest with _ | ⟨lead, rest⟩
    · cases digit
    · exact notNumber ⟨[first], lead, rest, signed, .inr notSplit, digit, rfl⟩

omit stopped in
/-- A number is the same in front of both texts if it ends there. -/
theorem lex_kept_of_startsNumber
    {flags : Flags}
    (starts : StartsNumber flags (front ++ tail))
    (keeps : LongestPrefix NumberText (front ++ tail) front tail →
      LongestPrefix NumberText (front ++ tail') front tail')
    (ends : (lex flags (⟨past, front ++ tail⟩ : Reader)).source.rest = tail)
    (past' : List Char) :
    lex flags (⟨past', front ++ tail'⟩ : Reader) =
      { lex flags (⟨past, front ++ tail⟩ : Reader) with
        source := ⟨front.reverse ++ past', tail'⟩ } := by
  rcases starts.exists_longest with ⟨lexeme, behind, longest⟩
  rcases longest.isMember.exists_means with ⟨numeral, means⟩
  have lexed := lex_of_means starts longest means past
  rw [lexed, source_ofNumber] at ends
  obtain rfl : behind = tail := ends
  obtain rfl : front = lexeme := List.append_cancel_right longest.text_eq
  rcases longest.isMember.exists_lead with ⟨sign, lead, rest, signed, digit, rfl⟩
  have isText : ∀ tail,
      sign ++ lead :: rest ++ tail = sign ++ lead :: (rest ++ tail) := by simp
  have starts' : StartsNumber flags (sign ++ lead :: rest ++ tail') :=
    ⟨sign, lead, rest ++ tail', signed,
      starts.mayHaveSign signed digit (isText _), digit, isText _⟩
  rw [lexed, lex_of_means starts' (keeps longest) means]
  rcases numeral with _ | _ | _ <;> rfl

end

/-! ### Strings -/

/-- The digits of a code point are read, whatever follows them. -/
theorem hexCode_append
    (past rest : List Char)
    {digits : List Char}
    (areHex : ∀ c ∈ digits, isHex c)
    (code : Nat) :
    hexCode digits.length code (⟨past, digits ++ rest⟩ : Reader) =
      (some (digits.foldl (fun sum c => sum * 16 + (digitValue? c).getD 0) code),
        ⟨digits.reverse ++ past, rest⟩) := by
  induction digits generalizing past code with
  | nil => rfl
  | cons c digits ih =>
      rcases List.forall_mem_cons.mp areHex with ⟨isHex, areHex⟩
      rcases Option.isSome_iff_exists.mp isHex with ⟨digit, found⟩
      have counts : digitValue? c = some digit :=
        (Option.filter_eq_some_iff.mp found).1
      rw [List.length_cons, List.cons_append, hexCode, Reader.source_next_cons]
      dsimp only
      rw [found]
      dsimp only
      rw [ih _ areHex, List.foldl_cons, counts]
      simp

theorem escaped_append
    (past rest : List Char)
    {run : List Char}
    {meant : Char}
    (escape : Escape run meant) :
    escaped (⟨past, run ++ rest⟩ : Reader) =
      (.ok meant, ⟨run.reverse ++ past, rest⟩) := by
  cases escape with
  | @short mark meant isShort =>
      have known : ∀ entry ∈ shortEscapes, entry.1 ≠ 'u' ∧
          unescape? entry.1 = some entry.2 := by decide
      rcases known _ isShort with ⟨notCode, isEscape⟩
      have read : CharSource.next (⟨past, [mark] ++ rest⟩ : Reader) =
          some (mark, ⟨mark :: past, rest⟩) := rfl
      rw [escaped_of_ne read notCode, isEscape]
      rfl
  | @code digits length areHex valid =>
      have read := hexCode_append ('u' :: past) rest areHex 0
      have computed :
          digits.foldl (fun sum c => sum * 16 + (digitValue? c).getD 0) 0 =
            ofDigits 16 digits := rfl
      rw [length, computed] at read
      rw [List.cons_append, escaped, Reader.source_next_cons]
      simp only [read]
      rw [if_pos valid]
      simp [ofDigits]

/-- What stands between two quotes is read up to the second one, whatever follows
it. -/
theorem stringBody_append
    (past rest : List Char)
    {quote : Char}
    (notEscape : '\\' ≠ quote)
    {body text : List Char}
    (quoted : Quoted quote body text) :
    stringBody quote (⟨past, body ++ quote :: rest⟩ : Reader) =
      (none, text, ⟨quote :: (body.reverse ++ past), rest⟩) := by
  induction quoted generalizing past with
  | empty => exact stringBody_close rfl
  | @plain c body text notQuote notBackslash _ ih =>
      refine (stringBody_plain rfl notQuote notBackslash).trans ?_
      rw [List.reverse_cons]
      simp [ih]
  | @escape run body text meant escape _ ih =>
      have read := escaped_append ('\\' :: past) (body ++ quote :: rest) escape
      rw [← List.append_assoc] at read
      refine (stringBody_escape rfl notEscape read).trans ?_
      simp [ih]

theorem ne_backslash_of_isQuote
    {quote : Char}
    (isQuote : quote = '\'' ∨ quote = '"') :
    '\\' ≠ quote := by
  rintro rfl
  exact absurd isQuote (by decide)

theorem string_kept
    {quote : Char}
    (notEscape : '\\' ≠ quote)
    (past past' : List Char)
    {kind : TokenKind}
    (wellFormed :
      (string quote (⟨past, front ++ tail⟩ : Reader)).outcome = .ok kind)
    (ends : (string quote (⟨past, front ++ tail⟩ : Reader)).source.rest = tail) :
    string quote (⟨past', front ++ tail'⟩ : Reader) =
      { string quote (⟨past, front ++ tail⟩ : Reader) with
        source := ⟨front.reverse ++ past', tail'⟩ } := by
  rcases stringBody_reads quote ⟨past, front ++ tail⟩ with ⟨run, reads, closed⟩
  rcases body : stringBody quote (⟨past, front ++ tail⟩ : Reader) with
    ⟨_ | fault, text, last⟩
  case some =>
    rw [string, body] at wellFormed
    cases wellFormed
  case none =>
    rw [body] at closed reads
    rw [string, body] at ends
    rcases closed rfl with ⟨inside, rfl, quoted⟩
    have whole := reads.rest_eq
    rw [ends] at whole
    obtain rfl := List.append_cancel_right whole
    have read := stringBody_append past' tail' notEscape quoted
    have isText : inside ++ [quote] ++ tail' = inside ++ quote :: tail' := by simp
    rw [string, string, body, isText, read]
    simp

/-! ### All tokens -/

/-- A token is the same in front of both texts if it is where it is a string or a
number. -/
theorem lex_kept
    (stopped : StoppedAt marks tail tail')
    (joins : seconds ⊆ marks)
    {flags : Flags}
    {c : Char}
    {past' : List Char}
    (strings : c = '\'' ∨ c = '"' →
      (string c (⟨c :: past, front ++ tail⟩ : Reader)).source.rest = tail →
        string c (⟨c :: past', front ++ tail'⟩ : Reader) =
          { string c (⟨c :: past, front ++ tail⟩ : Reader) with
            source := ⟨front.reverse ++ c :: past', tail'⟩ })
    (numbers : StartsNumber flags (c :: front ++ tail) →
      LongestPrefix NumberText (c :: front ++ tail) (c :: front) tail →
        LongestPrefix NumberText (c :: front ++ tail') (c :: front) tail')
    (ends : (lex flags (⟨past, c :: front ++ tail⟩ : Reader)).source.rest = tail) :
    lex flags (⟨past', c :: front ++ tail'⟩ : Reader) =
      { lex flags (⟨past, c :: front ++ tail⟩ : Reader) with
        source := ⟨(c :: front).reverse ++ past', tail'⟩ } := by
  by_cases starts : StartsNumber flags (c :: front ++ tail)
  · exact lex_kept_of_startsNumber starts (numbers starts) ends past'
  have notNumber := noDigit_of_not_startsNumber starts
  have same :
      (c :: front).reverse ++ past' = front.reverse ++ c :: past' := by simp
  revert ends
  rw [same, List.cons_append, List.cons_append, lex_cons, lex_cons]
  split
  case isTrue isQuote => exact strings isQuote
  split
  · exact colon_kept stopped _ _
  split
  · exact color_kept stopped _ _
  split
  case isTrue isSign =>
      exact sign_kept stopped joins (notNumber.2 isSign) isSign _ _
  split
  case isTrue digit => exact absurd digit (Bool.not_eq_true _ ▸ notNumber.1)
  split
  · exact word_kept stopped flags c _ _
  · exact symbol_kept stopped joins c _ _

/-- A token is the same in front of a text that is stopped. -/
theorem lex_stopped
    (stopped : Stopped tail tail')
    {flags : Flags}
    {c : Char}
    {kind : TokenKind}
    (wellFormed :
      (lex flags (⟨past, c :: front ++ tail⟩ : Reader)).outcome = .ok kind)
    (ends : (lex flags (⟨past, c :: front ++ tail⟩ : Reader)).source.rest = tail)
    (past' : List Char) :
    lex flags (⟨past', c :: front ++ tail'⟩ : Reader) =
      { lex flags (⟨past, c :: front ++ tail⟩ : Reader) with
        source := ⟨(c :: front).reverse ++ past', tail'⟩ } := by
  have joins : seconds ⊆ joining := by decide
  refine lex_kept stopped joins (fun isQuote => ?_) (fun _ => ?_) ends
  · rw [List.cons_append, lex_cons, if_pos isQuote] at wellFormed
    exact string_kept (ne_backslash_of_isQuote isQuote) _ _ wellFormed
  · exact .of_stopped (fun _ => NumberText.continues) stopped

end Scanned

end Formula
