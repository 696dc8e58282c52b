import Formula.Proofs.Token.Locality

/-!
# Tokens in front of a sign

Behind a sign no token goes on, with one exception: in a number it may be the
sign of an exponent.  So a token is the same in front of a text with more of it
behind, if the rest begins with a blank or a sign, unless the token is a number
and all that is left behind it is the letter of an exponent.
-/

namespace Formula

namespace Text

/-- The marks that a symbol or a number may go on with, other than signs. -/
def unsigned : List Char :=
  ['.', '&', '|', '^', '=', '>', '*']

theorem unsigned_of_joining :
    ∀ c ∈ joining, c ∈ unsigned ∨ c = '+' ∨ c = '-' := by
  simp [joining, unsigned]

theorem stopsAt_sign
    {c : Char}
    (isSign : c = '+' ∨ c = '-')
    (rest : List Char) :
    StopsAt unsigned (c :: rest) := by
  intro d first
  obtain rfl := Option.some.inj first
  rcases isSign with rfl | rfl <;> decide

theorem stopsAt_of_blank
    {c : Char}
    (blank : isBlank c)
    (rest : List Char) :
    StopsAt unsigned (c :: rest) := by
  have joins : unsigned ⊆ joining := by decide
  intro d first
  rcases stops_of_blank blank rest d first with ⟨notName, notJoining⟩
  exact ⟨notName, fun isMark => notJoining (joins isMark)⟩

end Text

namespace Number

open Text

/-! ## Signs within numbers -/

theorem ne_sign_of_isNameNext
    {c sign : Char}
    (inName : isNameNext c)
    (isSign : sign = '+' ∨ sign = '-') :
    c ≠ sign := by
  rintro rfl
  rcases isSign with rfl | rfl <;> exact absurd inName (by decide)

/-- A character that is not in front of another text is behind its front. -/
theorem exists_behind_of_append_eq {α : Type}
    {left right front rest : List α}
    {c : α}
    (same : left ++ right = front ++ c :: rest)
    (notMember : c ∉ left) :
    ∃ beyond, front = left ++ beyond ∧ right = beyond ++ c :: rest := by
  rcases List.append_eq_append_iff.mp same with
    ⟨beyond, isFront, isRight⟩ | ⟨more, isLeft, isRest⟩
  · exact ⟨beyond, isFront, isRight⟩
  · cases more with
    | nil => exact ⟨[], by simpa using isLeft.symm, by simpa using isRest.symm⟩
    | cons d more =>
        obtain rfl : c = d := (List.cons.inj isRest).1
        exact absurd (by simp [isLeft]) notMember

/-- Behind the sign of a text, or its absence, there is a character that is no
sign. -/
theorem Signed.exists_behind
    {sign right front rest : List Char}
    {c : Char}
    (signed : Signed sign)
    (same : sign ++ right = front ++ c :: rest)
    (nonempty : front ≠ []) :
    ∃ beyond, front = sign ++ beyond ∧ right = beyond ++ c :: rest := by
  rcases front with _ | ⟨first, front⟩
  · exact absurd rfl nonempty
  cases signed with
  | none => exact ⟨_, rfl, same⟩
  | plus | minus =>
      obtain ⟨rfl, isRight⟩ := List.cons.inj same
      exact ⟨front, rfl, isRight⟩

/-- A number ends with a digit. -/
theorem Spelling.exists_last (spelling : Spelling) :
    ∃ front last, spelling.chars = front ++ [last] ∧ Text.isDecimal last := by
  have ofDigits : ∀ {run}, Digits run → ∃ front last, run = front ++ [last] ∧
      Text.isDecimal last := by
    intro run digits
    refine ⟨run.dropLast, run.getLast digits.nonempty, ?_, ?_⟩
    · exact (List.dropLast_concat_getLast digits.nonempty).symm
    · exact digits.isDecimal _ (List.getLast_mem digits.nonempty)
  rcases spelling with
    ⟨sign, whole, places, power, signed, digits, hasPlaces, hasPower⟩
  cases hasPower with
  | @some letter sign' run _ _ digits' =>
      rcases ofDigits digits' with ⟨front, last, rfl, digit⟩
      exact ⟨sign ++ (whole ++ (places ++ letter :: (sign' ++ front))), last,
        by simp [chars], digit⟩
  | none =>
      cases hasPlaces with
      | some digits' =>
          rcases ofDigits digits' with ⟨front, last, rfl, digit⟩
          exact ⟨sign ++ (whole ++ '.' :: front), last, by simp [chars], digit⟩
      | none =>
          rcases ofDigits digits with ⟨front, last, rfl, digit⟩
          exact ⟨sign ++ front, last, by simp [chars], digit⟩

/-- In front of an exponent there are digits, and no letter. -/
theorem Spelling.notNumber_append
    {spelling : Spelling}
    (noPower : spelling.power = [])
    {letter : Char}
    (isLetter : letter = 'e' ∨ letter = 'E') :
    ¬ NumberText (spelling.chars ++ [letter]) := by
  generalize isText : spelling.chars ++ [letter] = text
  intro isNumber
  cases isNumber with
  | decimal longer =>
      rcases longer.exists_last with ⟨front, last, same, digit⟩
      obtain rfl : letter = last := by
        simpa using (List.append_inj' (isText.trans same) rfl).2
      rcases isLetter with rfl | rfl <;> exact absurd digit (by decide)
  | @radix sign digits base radix signed isBase nonempty belongs =>
      rcases spelling with
        ⟨sign', whole, places, power, signed', digits', hasPlaces, _⟩
      obtain rfl : power = [] := noPower
      have isName : isNameFirst base := isNameFirst_of_mem_bases _ isBase
      have notDecimal : ¬ Text.isDecimal base := fun digit => by
        simp [isNameFirst_of_isDecimal digit] at isName
      have isMember : base ∈
          chars ⟨sign', whole, places, [], signed', digits', hasPlaces, .none⟩ ++
            [letter] := by
        rw [isText]
        simp
      simp only [chars, List.mem_append, List.append_nil,
        List.mem_singleton] at isMember
      rcases isMember with (inSign | inWhole | inPlaces) | rfl
      · rcases signed'.mem inSign with rfl | rfl <;>
          exact absurd isName (by decide)
      · exact notDecimal (digits'.isDecimal base inWhole)
      · cases hasPlaces with
        | none => cases inPlaces
        | some digits'' =>
            rcases List.mem_cons.mp inPlaces with rfl | inRun
            · exact absurd isName (by decide)
            · exact notDecimal (digits''.isDecimal base inRun)
      · rcases isLetter with rfl | rfl <;> exact absurd isBase (by simp [bases])

/-- A sign within a number is behind the letter of its exponent. -/
theorem NumberText.exists_power
    {front rest : List Char}
    {c : Char}
    (isSign : c = '+' ∨ c = '-')
    (nonempty : front ≠ [])
    (isNumber : NumberText (front ++ c :: rest)) :
    ∃ (shorter : Spelling) (letter : Char), shorter.power = [] ∧
      (letter = 'e' ∨ letter = 'E') ∧
        front = shorter.chars ++ [letter] := by
  have notMember : ∀ {run : List Char}, (∀ d ∈ run, isNameNext d) → c ∉ run :=
    fun inName isMember => ne_sign_of_isNameNext (inName c isMember) isSign rfl
  have ofDigits : ∀ {run}, Digits run → c ∉ run :=
    fun digits => notMember fun d isMember =>
      isNameNext_of_isDecimal (digits.isDecimal d isMember)
  generalize isText : front ++ c :: rest = text at isNumber
  cases isNumber with
  | @radix sign digits base radix signed isBase _ belongs =>
      rcases signed.exists_behind isText.symm nonempty with ⟨beyond, _, isRest⟩
      have isMember : c ∈ '0' :: base :: digits := by simp [isRest]
      refine absurd isMember (notMember ?_)
      simp only [List.mem_cons, forall_eq_or_imp]
      exact ⟨by decide,
        isNameNext_of_isNameFirst (isNameFirst_of_mem_bases _ isBase),
        fun d isDigit => isNameNext_of_isDigit (belongs d isDigit)⟩
  | decimal spelling =>
      rcases spelling with
        ⟨sign, whole, places, power, signed, digits, hasPlaces, hasPower⟩
      rcases signed.exists_behind isText.symm nonempty with
        ⟨beyond, isFront, isRest⟩
      rcases exists_behind_of_append_eq isRest (ofDigits digits) with
        ⟨beyond', isBeyond, isRest'⟩
      have notPlaces : c ∉ places := by
        cases hasPlaces with
        | none => exact List.not_mem_nil
        | some digits =>
            rw [List.mem_cons]
            rintro (rfl | inRun)
            · rcases isSign with isSign | isSign <;> cases isSign
            · exact ofDigits digits inRun
      rcases exists_behind_of_append_eq isRest' notPlaces with
        ⟨inPower, isBeyond', isPower⟩
      cases hasPower with
      | none => simp at isPower
      | @some letter sign' run isLetter signed' digits' =>
          have notLetter : c ∉ [letter] := by
            rw [List.mem_singleton]
            rintro rfl
            rcases isLetter with rfl | rfl <;>
              rcases isSign with isSign | isSign <;> cases isSign
          have isPower' : [letter] ++ (sign' ++ run) = inPower ++ c :: rest :=
            isPower
          rcases exists_behind_of_append_eq isPower' notLetter with
            ⟨behind, isInPower, isBehind⟩
          have isLast : behind = [] := by
            cases behind with
            | nil => rfl
            | cons d behind =>
                rcases signed'.exists_behind isBehind
                  (List.cons_ne_nil d behind) with
                  ⟨_, _, isRun⟩
                exact absurd (by simp [isRun]) (ofDigits digits')
          refine ⟨⟨sign, whole, places, [], signed, digits, hasPlaces, .none⟩,
            letter, rfl, isLetter, ?_⟩
          rw [isFront, isBeyond, isBeyond', isInPower, isLast]
          simp [Spelling.chars]

/-- The longest number in front of a text stays the longest one if the text goes
on with a blank or a sign, unless the letter of an exponent is all that is
left. -/
theorem longest_append
    {lexeme tail ext : List Char}
    (stops : StopsAt unsigned ext)
    (noLetter : ∀ letter, letter = 'e' ∨ letter = 'E' → tail ≠ [letter])
    (longest : LongestPrefix NumberText (lexeme ++ tail) lexeme tail) :
    LongestPrefix NumberText (lexeme ++ (tail ++ ext)) lexeme (tail ++ ext) where
  text_eq := rfl
  isMember := longest.isMember
  longest longer behind text_eq isMember := by
    rw [← List.append_assoc] at text_eq
    rcases List.append_eq_append_iff.mp text_eq with
      ⟨beyond, rfl, isRest⟩ | ⟨short, isShort, _⟩
    · cases beyond with
      | nil => exact longest.longest _ [] (by simp) isMember
      | cons c beyond =>
          rcases stops c (isRest ▸ rfl) with ⟨notName, notMark⟩
          have isSign : c = '+' ∨ c = '-' := by
            rcases isMember.continues c (by simp) with inName | isJoining
            · simp [notName] at inName
            · exact (unsigned_of_joining c isJoining).resolve_left notMark
          have nonempty : lexeme ++ tail ≠ [] := by
            rcases longest.isMember.exists_lead with ⟨_, _, _, _, _, rfl⟩
            simp
          rcases isMember.exists_power isSign nonempty with
            ⟨shorter, letter, noPower, isLetter, isFront⟩
          have within :=
            longest.longest shorter.chars [letter] isFront (.decimal shorter)
          have sameLength := congrArg List.length isFront
          simp only [List.length_append, List.length_singleton] at sameLength
          rcases tail with _ | ⟨d, _ | ⟨_, _⟩⟩
          · refine absurd longest.isMember ?_
            rw [List.append_nil] at isFront
            exact isFront ▸ shorter.notNumber_append noPower isLetter
          · have isLast := (List.append_inj' isFront rfl).2
            exact absurd isLast (noLetter letter isLetter)
          · simp only [List.length_cons] at sameLength
            omega
    · exact longest.longest longer short isShort isMember

end Number

/-! ## Longer texts -/

/-- The position, in the text with more of it behind. -/
def Reader.extend (ext : List Char) (s : Reader) : Reader :=
  ⟨s.past, s.rest ++ ext⟩

/-- A run that does not reach the end is the same in a longer text. -/
theorem Reader.readWhile_extend
    {p : Char → Bool}
    {s : Reader}
    (ext : List Char)
    (something : (CharSource.readWhile p s).2.rest ≠ []) :
    CharSource.readWhile p (s.extend ext) =
      ((CharSource.readWhile p s).1, (CharSource.readWhile p s).2.extend ext) := by
  rcases s with ⟨past, chars⟩
  rw [Reader.readWhile_eq] at something
  replace something : chars.dropWhile p ≠ [] := something
  have notWhole : (chars.takeWhile p).length ≠ chars.length := by
    intro sameLength
    have whole :=
    congrArg List.length (List.takeWhile_append_dropWhile (p := p) (l := chars))
    rw [List.length_append, sameLength] at whole
    exact something (List.length_eq_zero_iff.mp (by omega))
  have notAll : ¬ (chars.dropWhile p).isEmpty := by simpa using something
  simp only [Reader.extend, Reader.readWhile_eq, List.dropWhile_append,
    List.takeWhile_append, if_neg notWhole, if_neg notAll]

namespace Scanned

open Text Number

variable {flags : Flags} {start : Reader}

/-- A well-formed token is the same in a text that goes on with a blank or a sign,
unless it is a number and the letter of an exponent is all that is left behind
it. -/
theorem lex_extend
    {ext : List Char}
    (stops : StopsAt unsigned ext)
    (wellFormed : (lex flags start).kind ≠ .error)
    (notEnd : (lex flags start).kind ≠ .endOfInput)
    (noLetter :
      (lex flags start).kind = .integer ∨ (lex flags start).kind = .float →
        ∀ letter, letter = 'e' ∨ letter = 'E' →
          (lex flags start).source.rest ≠ [letter]) :
    lex flags (start.extend ext) =
      { lex flags start with source := (lex flags start).source.extend ext } := by
  rcases exists_lexeme flags start with ⟨lexeme, reads, isEmpty, _⟩
  rcases lexeme with _ | ⟨c, front⟩
  · exact absurd (isEmpty.mp rfl) notEnd
  rcases start with ⟨past, text⟩
  have isSource := reads.past_eq
  have outcome := outcome_eq_of_kind wellFormed
  generalize isTail : (lex flags (⟨past, text⟩ : Reader)).source.rest = tail at *
  obtain rfl : text = c :: front ++ tail := isTail ▸ reads.rest_eq
  have joins : seconds ⊆ unsigned := by decide
  have stopped : StoppedAt unsigned tail (tail ++ ext) :=
    ⟨tail, [], ext, by simp, rfl, stops⟩
  have kept : lex flags (⟨past, c :: front ++ (tail ++ ext)⟩ : Reader) =
      { lex flags (⟨past, c :: front ++ tail⟩ : Reader) with
        source := ⟨(c :: front).reverse ++ past, tail ++ ext⟩ } := by
    refine lex_kept stopped joins (fun isQuote ends => ?_)
      (fun starts longest => longest_append stops (noLetter ?_) longest) isTail
    · rw [List.cons_append, lex_cons, if_pos isQuote] at outcome
      exact string_kept (ne_backslash_of_isQuote isQuote) _ _ outcome ends
    · rcases longest.isMember.exists_means with ⟨numeral, means⟩
      rw [lex_of_means starts longest means] at wellFormed ⊢
      rcases numeral with _ | _ | _
      · exact absurd rfl wellFormed
      · exact .inl rfl
      · exact .inr rfl
  rw [Reader.extend, List.append_assoc, kept, Reader.extend, isTail, isSource]

/-- Where an operator may come, the letter of an exponent is no token. -/
theorem lex_letter
    {letter : Char}
    (isLetter : letter = 'e' ∨ letter = 'E')
    (past : List Char) :
    (lex Flags.operator (⟨past, [letter]⟩ : Reader)).kind = .error := by
  have unknown : TokenKind.ofWord? (String.ofList [letter]) = none := by
    rcases isLetter with rfl | rfl <;> decide
  have isWord : lex Flags.operator (⟨past, [letter]⟩ : Reader) =
      word Flags.operator letter ⟨letter :: past, []⟩ := by
    rcases isLetter with rfl | rfl <;> rfl
  rw [isWord, word, Reader.readWhile_eq]
  dsimp only [Flags.operator, List.takeWhile_nil]
  rw [unknown]
  rfl

end Scanned

end Formula
