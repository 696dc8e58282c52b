import Formula.Expression
import Formula.Proofs.Parse.Alignment
import Formula.Proofs.Parse.Visits

/-!
# Runs of blanks

Where a parser looks for a token behind some blanks, it finds the same token
behind any others.  So a run of blanks that is skipped in front of a token may be
exchanged for another one, wherever it is, and nothing changes but places in
errors.
-/

namespace Formula

open Text Tokenizer TokenFeed

variable {before tail tail' : List Char}

/-! ## The same token in both texts -/

section

variable {ready : Mode → Logged → Tokenizer Reader → Prop} {modes : Mode → Prop}
  {mode : Mode}
variable {left : Logged} {right : Tokenizer Reader}

/-- Tokenizers that stay in what their texts have in common have read the same
token. -/
theorem Ahead.regular
    (implies : ∀ {mode left right}, Ahead modes before tail tail' left right →
      ready mode left right)
    (ahead : Ahead modes before tail tail' (TokenFeed.advance mode left)
      (right.get mode.flags))
    (here :
      ¬ Logged.Passed modes ⟨before.reverse, tail⟩ (TokenFeed.advance mode left)) :
    Parse.Regular ready (fun _ _ => True) (fun e e' => e.unplaced = e'.unplaced)
      mode left right where
  token := sameMeaning_of_moved ahead.beside.moved
  fault malformed := absurd ⟨ahead.notReached, .inl malformed⟩ here
  served _ := ⟨fun _ => implies ahead, implies ahead.unget, trivial,
    unexpected_unplaced_of_moved ahead.beside.moved⟩

/-- So have tokenizers behind which the texts go on in the same way. -/
theorem Tokenizer.Aligned.regular
    (implies : ∀ {mode : Mode} {left : Logged} {right : Tokenizer Reader},
      Aligned (left.tokenizer.get mode.flags) (right.get mode.flags) →
        ready mode left right)
    (aligned : Aligned (left.tokenizer.get mode.flags) (right.get mode.flags)) :
    Parse.Regular ready (fun _ _ => True) (fun e e' => e.unplaced = e'.unplaced)
      mode left right where
  token := sameMeaning_of_moved aligned.moved
  fault _ := ⟨aligned.fault_unplaced, trivial⟩
  served _ := by
    refine ⟨fun next => implies (aligned.get next.flags), implies ?_, trivial,
      unexpected_unplaced_of_moved aligned.moved⟩
    have back := get_unget mode.flags (left.tokenizer.get mode.flags)
    have back' := get_unget mode.flags (right.get mode.flags)
    exact back.symm ▸ back'.symm ▸ aligned

end

/-! ## Exchanging blanks -/

/-- Until a parser looks for a token where two texts begin to differ, it cannot
tell them apart, nor can it behind that if they differ in blanks only. -/
theorem Ahead.feedSimulation
    (something : tail ≠ [])
    (stopped : Stopped tail tail')
    (sameRest : tail.dropWhile isBlank = tail'.dropWhile isBlank) :
    Parse.FeedSimulation (Logged.Passed (fun _ => True) ⟨before.reverse, tail⟩)
      (fun mode (left : Logged) (right : Tokenizer Reader) =>
        Ahead (fun _ => True) before tail tail' left right ∨
          Aligned (left.tokenizer.get mode.flags) (right.get mode.flags))
      (fun _ _ => True) (fun e e' => e.unplaced = e'.unplaced) := by
  let ready (mode : Mode) (left : Logged) (right : Tokenizer Reader) : Prop :=
    Ahead (fun _ => True) before tail tail' left right ∨
      Aligned (left.tokenizer.get mode.flags) (right.get mode.flags)
  have regular : ∀ {mode : Mode} {left : Logged} {right : Tokenizer Reader},
      ready mode left right →
        ¬ Logged.Passed (fun _ => True) ⟨before.reverse, tail⟩
          (TokenFeed.advance mode left) →
            Parse.Regular ready (fun _ _ => True)
              (fun e e' => e.unplaced = e'.unplaced) mode left right := by
    rintro mode left right (ahead | aligned) here
    · rcases ahead.advance stopped here with ahead | ⟨_, atGoal⟩
      · exact ahead.regular .inl here
      · refine Aligned.regular .inr ?_
        rw [get_of_reads atGoal.reads, get_of_reads atGoal.reads']
        refine aligned_scan _ ?_ ?_ ?_
        · rw [atGoal.source_eq, atGoal.rest_eq, sameRest]
        · rw [atGoal.reads.1, atGoal.reads'.1]
        · rw [atGoal.sound.1, atGoal.sound.2]
    · exact aligned.regular .inr
  constructor
  case lost_advance => exact fun mode passed => passed.advance something mode
  case lost_unget => exact fun passed => ⟨passed.notReached, passed.gone⟩
  case token => exact fun isReady here => (regular isReady here).token
  case fault => exact fun isReady here => (regular isReady here).fault
  case served => exact fun isReady here => (regular isReady here).served

/-- In front of the first token, blanks can be exchanged for any others, or for
none. -/
theorem Parse.sameOutcome_of_leading
    (multiple : Bool)
    {chars chars' : List Char}
    (sameRest : chars.dropWhile isBlank = chars'.dropWhile isBlank) :
    SameOutcome (expressions multiple (ofSource (Reader.ofList chars))).1
      (expressions multiple (ofSource (Reader.ofList chars'))).1 := by
  have aligned : Aligned ((ofSource (Reader.ofList chars)).get Mode.operand.flags)
      ((ofSource (Reader.ofList chars')).get Mode.operand.flags) :=
    aligned_scan _ sameRest rfl rfl
  exact sameOutcome_of_agree
    ((alignedSimulation.expressions_tracks multiple _ _).agree aligned id)

/--
A run of blanks in front of which the parser looks for a token can be exchanged
for any other, and in front of the first token or of the end of the text for
none.  The trees are the same, or the error is the same but for its place.
-/
theorem Expression.parse_of_blanks
    {multiple : Bool}
    {mode : Mode}
    {before run run' behind : String}
    (areBlank : ∀ c ∈ run.toList, isBlank c)
    (areBlank' : ∀ c ∈ run'.toList, isBlank c)
    (something : run ≠ "")
    (something' : run' ≠ "" ∨ before = "" ∨ behind = "")
    (visited : (mode, ⟨before.toList.reverse, run.toList ++ behind.toList⟩) ∈
      Parse.visits multiple (before ++ run ++ behind)) :
    Parse.SameOutcome (parse (before ++ run ++ behind) multiple)
      (parse (before ++ run' ++ behind) multiple) := by
  have sameRest : (run.toList ++ behind.toList).dropWhile isBlank =
      (run'.toList ++ behind.toList).dropWhile isBlank := by
    rw [List.dropWhile_append_of_pos areBlank,
      List.dropWhile_append_of_pos areBlank']
  refine Parse.SameOutcome.map ?_ Expression.mk
  by_cases atFront : before = ""
  · subst atFront
    rw [Parse.expressions_text, Parse.expressions_text]
    refine Parse.sameOutcome_of_leading multiple ?_
    simpa using sameRest
  have stopped :
      Stopped (run.toList ++ behind.toList) (run'.toList ++ behind.toList) := by
    rcases shape' : run'.toList with _ | ⟨c, rest⟩
    · have atEnd : behind = "" := by
        simpa [atFront, String.toList_eq_nil_iff.mp shape'] using something'
      exact ⟨[], _, _, rfl, rfl, by simpa [atEnd] using stops_nil⟩
    · exact ⟨[], _, _, rfl, rfl, stops_of_blank (areBlank' c (by simp [shape'])) _⟩
  have nonempty : run.toList ++ behind.toList ≠ [] := by
    simp [something]
  rw [← Parse.expressions_logged, Parse.expressions_text]
  have ready : Ahead (fun _ => True) before.toList (run.toList ++ behind.toList)
      (run'.toList ++ behind.toList)
      ⟨ofSource (Reader.ofList (before ++ run ++ behind).toList), []⟩
      (ofSource (Reader.ofList (before ++ run' ++ behind).toList)) := by
    simpa using Ahead.ofSource
  refine Parse.sameOutcome_of_agree
    (((Ahead.feedSimulation nonempty stopped sameRest).expressions_tracks
      multiple _ _).agree
      (.inl ready) ?_)
  exact fun passed => passed.notReached ⟨mode, trivial, visited⟩

/-- In `1 @`, the character that begins no token is looked for behind the blank. -/
theorem Parse.visits_malformed :
    (Mode.operator, ⟨"1".toList.reverse, " ".toList ++ "@".toList⟩) ∈
      visits false ("1" ++ " " ++ "@") := by
  have isText : ("1" ++ " " ++ "@").toList = "1 @".toList := by decide
  rw [visits, isText]
  generalize isFeed : (⟨ofSource (Reader.ofList "1 @".toList), []⟩ : Logged) = feed
  have isInteger : (token (advance .operand feed)).kind = .integer := by
    subst isFeed
    decide +kernel
  have isConstant : constant? (token (advance .operand feed)) = some (.int 1) := by
    subst isFeed
    decide +kernel
  have malformed :
      (token (advance .operator (advance .operand feed))).kind = .error := by
    subst isFeed
    decide +kernel
  have operand := negation_of_number rfl rfl (.inl isInteger) isConstant
  rw [expressions_eq, expression_eq, plain_conditional, ladder,
    levels_of_malformed operand malformed]
  show _ ∈ (advance .operator (advance .operand feed)).visits
  subst isFeed
  decide +kernel

theorem Expression.parse_of_blanks_malformed :
    Parse.SameOutcome (parse ("1" ++ " " ++ "@") false)
      (parse ("1" ++ "\t\n" ++ "@") false) :=
  parse_of_blanks (by decide) (by decide) (by decide) (.inl (by decide))
    Parse.visits_malformed

end Formula
