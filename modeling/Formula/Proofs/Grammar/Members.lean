import Formula.Proofs.Grammar.Lists
import Formula.Proofs.Grammar.Locality

/-!
# Lists and their members

A text is parsed as a list exactly if it can be cut at semicolons into texts that
are parsed as expressions, and then the list consists of these.  A semicolon in a
string is none at which a text is cut, since the string is no expression up to
there.
-/

namespace Formula

open Text

/-- A punctuation mark is written in one way only. -/
theorem Formed.eq_mark
    {lexeme text : List Char}
    {literal : Option Numeral}
    {c : Char}
    {kind : TokenKind}
    (isMark : Grammar.Mark c kind)
    (formed : Formed lexeme kind text literal) :
    lexeme = [c] := by
  have notKeyword : kind.isKeyword = false := by
    cases isMark <;> rfl
  have oneSymbol :
      ∀ entry ∈ TokenKind.symbols, entry.2 = kind → entry.1.toList = [c] := by
    cases isMark <;> decide
  cases formed with
  | keyword _ reserved =>
      rw [TokenKind.isKeyword_of_mem_keywords _ reserved] at notKeyword
      cases notKeyword
  | symbol isSymbol =>
      exact String.toList_ofList.symm.trans (oneSymbol _ isSymbol rfl)
  | endOfInput | identifier | bareword | string | integer | float => cases isMark

namespace Grammar

open Parse

/-! ## Ends of a text -/

section

variable {mode : Mode} {s s' : Reader} {token : Token} {t : Expr} {ts : List Expr}

/-- Where a punctuation mark stands, it is there behind blanks. -/
theorem Terminal.rest_of_mark
    {c : Char}
    {kind : TokenKind}
    (terminal : Terminal mode s token s')
    (isMark : Mark c kind)
    (isKind : token.kind = kind) :
    ∃ blanks, (∀ c ∈ blanks, isBlank c) ∧ s.rest = blanks ++ c :: s'.rest := by
  rcases terminal.exists_scanned with
    ⟨blanks, text, isText, areBlank, _, scanned, lexed, isSource, sameKind, _⟩
  rcases Scanned.exists_lexeme mode.flags ⟨blanks.reverse ++ s.past, text⟩ with
    ⟨lexeme, reads, _, _, formed⟩
  rw [lexed, ← sameKind, isKind] at formed
  rw [lexed, isSource] at reads
  obtain rfl := (formed (isKind ▸ terminal.wellFormed)).eq_mark isMark
  exact ⟨blanks, areBlank, isText.trans (congrArg (blanks ++ ·) reads.rest_eq)⟩

/-- Where the input ends, there are only blanks. -/
theorem Terminal.rest_of_endOfInput
    (terminal : Terminal mode s token s')
    (isEnd : token.kind = .endOfInput) :
    ∀ c ∈ s.rest, isBlank c := by
  rw [← terminal.token_eq, Tokenizer.kind_scan_eq_endOfInput_iff] at isEnd
  exact isEnd

end

theorem exists_semicolon
    (mode : Mode)
    {blanks : List Char}
    (areBlank : ∀ c ∈ blanks, isBlank c)
    (past rest : List Char) :
    ∃ token past',
      Terminal mode (⟨past, blanks ++ ';' :: rest⟩ : Reader) token ⟨past', rest⟩ ∧
        token.kind = .semicolon := by
  have lexeme : Lexeme mode (blanks ++ [';']) rest (·.kind = .semicolon) :=
    (Lexeme.mark .semicolon).of_blanks areBlank
  rcases lexeme past with ⟨token, terminal, isSemicolon⟩
  rw [List.append_assoc] at terminal
  exact ⟨token, _, terminal, isSemicolon⟩

theorem exists_endOfInput
    (mode : Mode)
    {blanks : List Char}
    (areBlank : ∀ c ∈ blanks, isBlank c)
    (past : List Char) :
    ∃ token s', Terminal mode (⟨past, blanks⟩ : Reader) token s' ∧
      token.kind = .endOfInput := by
  have lexeme : Lexeme mode (blanks ++ []) [] (·.kind = .endOfInput) :=
    Lexeme.endOfInput.of_blanks areBlank
  rcases lexeme past with ⟨token, terminal, isEnd⟩
  rw [List.append_nil, List.append_nil] at terminal
  exact ⟨token, _, terminal, isEnd⟩

/-- What may close a list: blanks, and a semicolon among them or not. -/
inductive Trailer : List Char → Prop where
  | blanks {blanks : List Char} :
      (∀ c ∈ blanks, isBlank c) → Trailer blanks
  | semicolon {blanks blanks' : List Char} :
      (∀ c ∈ blanks, isBlank c) → (∀ c ∈ blanks', isBlank c) →
        Trailer (blanks ++ ';' :: blanks')

/-- The characters of further members, each behind a semicolon. -/
def furtherMembers (members : List (String × Expr)) : List Char :=
  members.flatMap fun member => ';' :: member.1.toList

/-- The text of a member spells its tree. -/
def IsMember (member : String × Expr) : Prop :=
  Spells (Reader.ofList member.1.toList) member.2

theorem Trailer.stops
    {trailer : List Char}
    (isTrailer : Trailer trailer) :
    Stops trailer := by
  have stops : ∀ {blanks rest}, (∀ c ∈ blanks, isBlank c) → Stops rest →
      Stops (blanks ++ rest) := by
    intro blanks rest areBlank stopsRest
    cases blanks with
    | nil => exact stopsRest
    | cons c blanks => exact stops_of_blank (areBlank c List.mem_cons_self) _
  cases isTrailer with
  | blanks areBlank => exact List.append_nil trailer ▸ stops areBlank stops_nil
  | semicolon areBlank _ => exact stops areBlank (stops_semicolon _)

theorem stops_furtherMembers
    (members : List (String × Expr))
    {trailer : List Char}
    (isTrailer : Trailer trailer) :
    Stops (furtherMembers members ++ trailer) := by
  cases members with
  | nil => exact isTrailer.stops
  | cons member members => exact stops_semicolon _

/-! ## From members to lists -/

/-- A text that spells a tree does so in front of any stop, up to blanks. -/
theorem IsMember.spans
    {member : String × Expr}
    (isMember : IsMember member)
    {rest : List Char}
    (stops : Stops rest) :
    ∃ piece blanks, member.1.toList = piece ++ blanks ∧ (∀ c ∈ blanks, isBlank c) ∧
      Spans .ternary piece (blanks ++ rest) member.2 := by
  rcases isMember with ⟨s₁, token, s₂, derives, terminal, isEnd⟩
  rcases derives.movable with ⟨piece, reads, moves⟩
  exact ⟨piece, s₁.rest, reads.rest_eq, terminal.rest_of_endOfInput isEnd,
    moves _ ⟨s₁.rest, [], rest, (List.append_nil _).symm, rfl, stops⟩⟩

/-- Members behind an expression are the rest of a list.  The induction is on
them. -/
theorem spellsRest_of_members
    {members : List (String × Expr)}
    (areMembers : ∀ member ∈ members, IsMember member)
    {trailer : List Char}
    (isTrailer : Trailer trailer)
    {blanks : List Char}
    (areBlank : ∀ c ∈ blanks, isBlank c)
    (past : List Char) :
    SpellsRest (⟨past, blanks ++ (furtherMembers members ++ trailer)⟩ : Reader)
      (members.map Prod.snd) := by
  induction members generalizing blanks past with
  | nil =>
      cases isTrailer with
      | blanks areBlank' =>
          rcases exists_endOfInput .operator
            (List.forall_mem_append.mpr ⟨areBlank, areBlank'⟩)
            past with ⟨token, s', terminal, isEnd⟩
          exact .done terminal isEnd
      | @semicolon front back areBlank' areBlank'' =>
          rcases exists_semicolon .operator
            (List.forall_mem_append.mpr ⟨areBlank, areBlank'⟩)
            past back with ⟨token, past', terminal, isSemicolon⟩
          rcases exists_endOfInput .operand areBlank'' past' with
            ⟨token', s', terminal', isEnd⟩
          rw [List.append_assoc] at terminal
          exact .trailing terminal isSemicolon terminal' isEnd
  | cons member members ih =>
      rcases List.forall_mem_cons.mp areMembers with ⟨isMember, areMembers⟩
      rcases isMember.spans (stops_furtherMembers members isTrailer) with
        ⟨piece, blanks', isText, areBlank', spans⟩
      rcases exists_semicolon .operator areBlank past
        (member.1.toList ++ (furtherMembers members ++ trailer)) with
          ⟨token, past', terminal, isSemicolon⟩
      have derives := spans past'
      rw [← List.append_assoc, ← isText] at derives
      have text : furtherMembers (member :: members) ++ trailer =
          ';' :: (member.1.toList ++ (furtherMembers members ++ trailer)) := by
        simp [furtherMembers]
      rw [text]
      exact .more terminal isSemicolon derives (ih areMembers areBlank' _)

/-- Members with semicolons between them are a list. -/
theorem spellsList_of_members
    {member : String × Expr}
    {members : List (String × Expr)}
    (isMember : IsMember member)
    (areMembers : ∀ member ∈ members, IsMember member)
    {trailer : List Char}
    (isTrailer : Trailer trailer) :
    SpellsList
      (Reader.ofList (member.1.toList ++ (furtherMembers members ++ trailer)))
      ((member :: members).map Prod.snd) := by
  rcases isMember.spans (stops_furtherMembers members isTrailer) with
    ⟨piece, blanks, isText, areBlank, spans⟩
  have derives := spans []
  rw [← List.append_assoc, ← isText] at derives
  exact .list derives (spellsRest_of_members areMembers isTrailer areBlank _)

/-! ## From lists to members -/

/-- What closes a list that is cut at its semicolons: nothing, or a semicolon and
blanks. -/
inductive Closer : List Char → Prop where
  | none : Closer []
  | semicolon {blanks : List Char} :
      (∀ c ∈ blanks, isBlank c) → Closer (';' :: blanks)

/-- What is derived in front of further members is a member, with the blanks
behind it. -/
theorem Derives.exists_member
    {s s' : Reader}
    {t : Expr}
    (derives : Derives .ternary s t s')
    {blanks rest : List Char}
    (isRest : s'.rest = blanks ++ rest)
    (areBlank : ∀ c ∈ blanks, isBlank c) :
    ∃ text, IsMember (text, t) ∧ s.rest = text.toList ++ rest := by
  rcases derives.movable with ⟨piece, reads, moves⟩
  have derives' :=
    moves blanks ⟨blanks, rest, [], isRest, (List.append_nil _).symm, stops_nil⟩ []
  rcases exists_endOfInput .operator areBlank (piece.reverse ++ []) with
    ⟨token, s₂, terminal, isEnd⟩
  refine ⟨String.ofList (piece ++ blanks), ⟨_, token, s₂, ?_, terminal, isEnd⟩, ?_⟩
  · rw [String.toList_ofList]
    exact derives'
  · rw [String.toList_ofList]
    exact reads.rest_append isRest

/-- The rest of a list is cut at its semicolons.  The induction is on the rest. -/
theorem exists_members_of_spellsRest
    {s : Reader}
    {ts : List Expr}
    (spells : SpellsRest s ts) :
    ∃ (blanks : List Char) (members : List (String × Expr)) (closer : List Char),
      (∀ c ∈ blanks, isBlank c) ∧
        (∀ member ∈ members, IsMember member) ∧ Closer closer ∧
          ts = members.map Prod.snd ∧
          s.rest = blanks ++ (furtherMembers members ++ closer) := by
  induction spells with
  | @done s s' token terminal isEnd =>
      refine ⟨s.rest, [], [], terminal.rest_of_endOfInput isEnd,
        List.forall_mem_nil _, .none, rfl, ?_⟩
      exact (List.append_nil _).symm
  | @trailing s s₁ s' semicolon token terminal isSemicolon terminal' isEnd =>
      rcases terminal.rest_of_mark .semicolon isSemicolon with
        ⟨blanks, areBlank, isRest⟩
      exact ⟨blanks, [], ';' :: s₁.rest, areBlank, List.forall_mem_nil _,
        .semicolon (terminal'.rest_of_endOfInput isEnd), rfl, isRest⟩
  | @more s s₁ s₂ semicolon t ts terminal isSemicolon derives _ ih =>
      rcases ih with
        ⟨blanks', members, closer, areBlank', areMembers, isCloser, rfl, isRest'⟩
      rcases terminal.rest_of_mark .semicolon isSemicolon with
        ⟨blanks, areBlank, isRest⟩
      rcases derives.exists_member isRest' areBlank' with ⟨text, isMember, isText⟩
      refine ⟨blanks, (text, t) :: members, closer, areBlank,
        List.forall_mem_cons.mpr ⟨isMember, areMembers⟩, isCloser, rfl, ?_⟩
      rw [isRest, isText]
      simp [furtherMembers]

/-- A list is cut at its semicolons into members. -/
theorem exists_members_of_spellsList
    {s : Reader}
    {ts : List Expr}
    (spells : SpellsList s ts) :
    ∃ (member : String × Expr) (members : List (String × Expr))
      (closer : List Char),
      IsMember member ∧ (∀ member ∈ members, IsMember member) ∧ Closer closer ∧
        ts = (member :: members).map Prod.snd ∧
          s.rest = member.1.toList ++ (furtherMembers members ++ closer) := by
  rcases spells with ⟨derives, spells⟩
  rcases exists_members_of_spellsRest spells with
    ⟨blanks, members, closer, areBlank, areMembers, isCloser, rfl, isRest⟩
  rcases derives.exists_member isRest areBlank with ⟨text, isMember, isText⟩
  exact ⟨(text, _), members, closer, isMember, areMembers, isCloser, rfl, isText⟩

/-! ## Texts -/

theorem toList_intercalate_members
    (member : String × Expr)
    (members : List (String × Expr)) :
    (";".intercalate ((member :: members).map Prod.fst)).toList =
      member.1.toList ++ furtherMembers members := by
  induction members generalizing member with
  | nil => simp [furtherMembers]
  | cons next members ih =>
      have shorter := ih next
      rw [List.map_cons, String.toList_intercalate] at shorter ⊢
      simp only [List.map_cons, List.intercalate_cons_cons] at shorter ⊢
      rw [shorter]
      simp [furtherMembers]

theorem isMember_iff (member : String × Expr) :
    IsMember member ↔
      (wholeExpression (Tokenizer.ofSource (Cursor.ofString member.1))).1 =
        .ok member.2 := by
  rw [wholeExpression_text]
  exact (wholeExpression_eq_ok_iff _ member.2).symm

/-- Where lists are not asked for, what is parsed is one expression or its
error. -/
theorem expressions_false
    {τ : Type} [TokenFeed τ]
    (feed : τ) :
    expressions false feed =
      ((wholeExpression feed).1.map ([·]), (wholeExpression feed).2) := by
  rw [expressions_eq, wholeExpression_eq]
  rcases expression feed with ⟨e | expr, rest⟩
  · rfl
  rw [Result.andThen_ok, Result.andThen_ok, plain_others, expecting]
  rcases reading .operator rest with ⟨e | token, last⟩
  · rfl
  rw [Result.andThen_ok, Result.andThen_ok]
  by_cases isEnd : token.kind = .endOfInput
  · rw [if_pos isEnd, if_pos isEnd]
    rfl
  · rw [if_neg isEnd, if_neg isEnd, if_neg (by simp)]
    rfl

/-- Lists are parsed as their members.  Texts of expressions with semicolons
between them, and maybe one more and blanks behind them, are parsed as the list
of these expressions, and whatever is parsed as a list can be cut at semicolons
into texts of its members.  Where lists are not asked for, what is parsed is one
expression, or the error that there is. -/
theorem expressions_eq_members :
    (∀ members : List (String × Expr), members ≠ [] →
      (∀ member ∈ members,
        (wholeExpression (Tokenizer.ofSource (Cursor.ofString member.1))).1 =
            .ok member.2) →
      ∀ trailer : String, Trailer trailer.toList →
        (expressions true (Tokenizer.ofSource
          (Cursor.ofString
            (";".intercalate (members.map Prod.fst) ++ trailer)))).1 =
              .ok (members.map Prod.snd)) ∧
    (∀ (text : String) (trees : List Expr),
      (expressions true (Tokenizer.ofSource (Cursor.ofString text))).1 =
          .ok trees →
      ∃ (members : List (String × Expr)) (closer : String), members ≠ [] ∧
        (∀ member ∈ members,
          (wholeExpression (Tokenizer.ofSource (Cursor.ofString member.1))).1 =
              .ok member.2) ∧
        Closer closer.toList ∧ trees = members.map Prod.snd ∧
        text = ";".intercalate (members.map Prod.fst) ++ closer) ∧
    ∀ {σ : Type} [CharSource σ] (tokenizer : Tokenizer σ),
      expressions false tokenizer =
        ((wholeExpression tokenizer).1.map ([·]),
          (wholeExpression tokenizer).2) := by
  refine ⟨?_, ?_, fun tokenizer => expressions_false tokenizer⟩
  · intro members nonempty parsed trailer isTrailer
    rcases members with _ | ⟨member, members⟩
    · exact absurd rfl nonempty
    rcases List.forall_mem_cons.mp parsed with ⟨isMember, areMembers⟩
    have spells := spellsList_of_members ((isMember_iff member).mpr isMember)
      (fun member isIn => (isMember_iff member).mpr (areMembers member isIn))
      isTrailer
    rw [← List.append_assoc, ← toList_intercalate_members] at spells
    rw [expressions_text, String.toList_append]
    exact (expressions_eq_ok_iff _ _).mpr spells
  · intro text trees parsed
    rw [expressions_text] at parsed
    rcases exists_members_of_spellsList
      ((expressions_eq_ok_iff _ _).mp parsed) with
      ⟨member, members, closer, isMember, areMembers, isCloser, areTrees, isText⟩
    refine ⟨member :: members, String.ofList closer, List.cons_ne_nil _ _, ?_, ?_,
      areTrees, ?_⟩
    · intro member' isIn
      rw [← isMember_iff]
      exact List.forall_mem_cons.mpr ⟨isMember, areMembers⟩ member' isIn
    · rwa [String.toList_ofList]
    · rw [← String.toList_inj, String.toList_append, toList_intercalate_members,
        String.toList_ofList, List.append_assoc]
      exact isText

end Grammar

end Formula
