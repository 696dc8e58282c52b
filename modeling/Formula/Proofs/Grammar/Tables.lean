import Formula.Parse.Descent
import Formula.Proofs.Grammar.Basic

/-!
# The tables of the parser and of the grammar

The parser finds operators in a ladder of levels, the grammar gives each its
rank; the parser classifies tokens by functions, the grammar by relations.  Both
say the same.
-/

namespace Formula.Grammar

open Parse

/-- Every entry of the ladder is an operator of the grammar, with its rank. -/
theorem rank?_of_mem :
    ∀ (rank : Fin ranks), ∀ entry ∈ ladder[rank],
      entry.1 ≠ .endOfInput ∧ binary? entry.1 = some entry.2 ∧
        rank? entry.2 = some rank.val := by
  decide

/-- Every operator of the grammar has its entry on the ladder. -/
theorem lookup_ladder
    {kind : TokenKind}
    {op : Op}
    {rank : Nat}
    (binary : binary? kind = some op)
    (ranked : rank? op = some rank) :
    ∃ level, ladder[rank]? = some level ∧ level.op? kind = some op := by
  cases kind <;> cases binary <;> cases ranked <;> exact ⟨_, rfl, rfl⟩

/-- A level of the ladder holds the operators of its rank. -/
theorem op?_eq_some_iff
    {rank : Nat}
    {level : Level}
    {kind : TokenKind}
    {op : Op}
    (onLadder : ladder[rank]? = some level) :
    level.op? kind = some op ↔ binary? kind = some op ∧ rank? op = some rank := by
  constructor
  · intro found
    rcases List.getElem?_eq_some_iff.mp onLadder with ⟨within, rfl⟩
    have notEnd := Level.ne_endOfInput found
    rw [Level.op?, if_neg notEnd] at found
    rcases List.lookup_eq_some_iff.mp found with ⟨before, behind, split, _⟩
    have isEntry : (kind, op) ∈ ladder[rank] := by
      rw [split]
      exact List.mem_append_right _ List.mem_cons_self
    exact (rank?_of_mem ⟨rank, within⟩ _ isEntry).2
  · rintro ⟨binary, ranked⟩
    rcases lookup_ladder binary ranked with ⟨level', onLadder', found⟩
    obtain rfl := Option.some.inj (onLadder'.symm.trans onLadder)
    exact found

theorem negation?_eq_some_iff
    {kind : TokenKind}
    {op : Op} :
    negation? kind = some op ↔ Negator kind op := by
  constructor
  · intro found
    cases kind <;> cases found <;> constructor
  · rintro (_ | _) <;> rfl

theorem negation?_eq_none_iff {kind : TokenKind} :
    negation? kind = none ↔ ∀ op, ¬ Negator kind op := by
  simp [Option.eq_none_iff_forall_ne_some, negation?_eq_some_iff]

theorem prefixOp?_eq_some_iff
    {kind : TokenKind}
    {op : Op} :
    prefixOp? kind = some op ↔ Sign kind op := by
  constructor
  · intro found
    cases kind <;> cases found <;> constructor
  · intro sign
    cases sign <;> rfl

theorem prefixOp?_eq_none_iff {kind : TokenKind} :
    prefixOp? kind = none ↔ ∀ op, ¬ Sign kind op := by
  simp [Option.eq_none_iff_forall_ne_some, prefixOp?_eq_some_iff]

theorem Literal.number
    {token : Token}
    {value : Value}
    (isNumber : token.kind = .integer ∨ token.kind = .float)
    (spelled : token.literal.map Numeral.value = some value) :
    Literal token value := by
  rcases Option.map_eq_some_iff.mp spelled with ⟨n | x, found, rfl⟩
  · exact .int isNumber found
  · exact .float isNumber found

theorem constant?_eq_some_iff
    {token : Token}
    {value : Value} :
    constant? token = some value ↔ Literal token value := by
  constructor
  · intro found
    rw [constant?] at found
    split at found
    case h_1 isString =>
      cases found
      exact .string isString
    case h_2 isNull =>
      cases found
      exact .null isNull
    case h_3 isAbsent =>
      cases found
      exact .absent isAbsent
    case h_4 =>
      rw [Token.literalValue?] at found
      split at found
      case h_1 isInt => exact Literal.number (.inl isInt) found
      case h_2 isFloat => exact Literal.number (.inr isFloat) found
      case h_3 isTrue =>
        cases found
        exact .true isTrue
      case h_4 isFalse =>
        cases found
        exact .false isFalse
      case h_5 => cases found
  · rintro (isKind | isKind | isKind | isKind | isKind | ⟨isNumber, spelled⟩ |
      ⟨isNumber, spelled⟩)
    case string => simp only [constant?, isKind]
    case null => simp only [constant?, isKind]
    case absent => simp only [constant?, isKind]
    case true => simp only [constant?, Token.literalValue?, isKind]
    case false => simp only [constant?, Token.literalValue?, isKind]
    all_goals
      rcases isNumber with isKind | isKind <;>
        simp [constant?, Token.literalValue?, isKind, spelled, Numeral.value]

theorem constant?_eq_none_iff {token : Token} :
    constant? token = none ↔ ∀ value, ¬ Literal token value := by
  simp [Option.eq_none_iff_forall_ne_some, constant?_eq_some_iff]

theorem name?_eq_some_iff
    {token : Token}
    {name : String} :
    token.name? = some name ↔ Name token name := by
  rw [Token.name?, Token.word?]
  constructor
  · intro found
    split at found
    case isTrue isIdentifier =>
      cases found
      exact .identifier isIdentifier
    case isFalse =>
      split at found
      case isFalse => cases found
      case isTrue isWord =>
        cases found
        simp only [Bool.or_eq_true, decide_eq_true_eq, Bool.and_eq_true] at isWord
        rcases isWord with isBareword | ⟨isKeyword, startsWord⟩
        · exact .bareword isBareword
        · cases front : token.text.toList.head? with
          | none => simp [front] at startsWord
          | some first =>
              exact .keyword isKeyword front (by simpa [front] using startsWord)
  · intro named
    cases named with
    | identifier isIdentifier => rw [if_pos isIdentifier]
    | bareword isBareword => simp [isBareword]
    | keyword isKeyword front startsWord =>
        have notIdentifier : token.kind ≠ .identifier := by
          intro isIdentifier
          simp [isIdentifier, TokenKind.isKeyword] at isKeyword
        simp [notIdentifier, isKeyword, front, startsWord]

end Formula.Grammar
