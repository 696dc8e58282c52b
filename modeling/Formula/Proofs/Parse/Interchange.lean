import Formula.Proofs.Parse.Simulation
import Formula.Proofs.Source.Models
import Formula.Proofs.Token.Simulation
import Formula.Source.Cursor
import Formula.Source.Stream

/-!
# Interchangeable sources

Tokenizers over related sources are feeds that no parser can tell apart.  So
whatever is done with a tokenizer over a cursor, the same comes out over a
stream of the same characters, and the stream never has to refuse a mark.
-/

namespace Formula

/-- Not the error of a source that refused a mark. -/
def Error.Honoured (e : Error) : Prop :=
  ∀ fault, e = .malformed fault → fault.cause ≠ .staleMark

theorem Token.unexpected_honoured
    (token : Token)
    (expected : Expectation) :
    (token.unexpected expected).Honoured := by
  intro fault impossible
  cases impossible

namespace Tokenizer

variable {σ τ : Type} [CharSource σ] [CharSource τ] {alike : σ → τ → Prop}
variable {left : Tokenizer σ} {right : Tokenizer τ}

theorem Alike.fault (same : Alike alike left right) :
    Parse.fault left = Parse.fault right ∧ (Parse.fault left).Honoured := by
  have sameFailure : TokenFeed.failure left = TokenFeed.failure right :=
    same.failure_eq
  have sameToken : TokenFeed.token left = TokenFeed.token right := same.token_eq
  rw [Parse.fault, Parse.fault, ← sameFailure, ← sameToken]
  refine ⟨rfl, ?_⟩
  cases found : TokenFeed.failure left with
  | none => exact Token.unexpected_honoured _ _
  | some fault =>
      intro _ this
      cases this
      exact same.honoured fault found

/-- Tokenizers over related sources are feeds of the same tokens. -/
theorem feedSimulation (rewinding : Rewinding alike) :
    Parse.FeedSimulation (fun _ => False)
      (fun _ => Alike alike) (Alike alike) (fun e e' => e = e' ∧ e.Honoured) where
  lost_advance _ := id
  lost_unget := id
  token {mode s t} related _ := by
    have same : TokenFeed.token (TokenFeed.advance mode s) =
        TokenFeed.token (TokenFeed.advance mode t) :=
      (related.get rewinding mode.flags).token_eq
    rw [same]
    exact .refl _
  fault related _ _ := ⟨(related.get rewinding _).fault, related.get rewinding _⟩
  served {mode s t} related _ _ := by
    have served := related.get rewinding mode.flags
    refine ⟨fun _ => served, served.unget, served, fun expected => ⟨?_, ?_⟩⟩
    · exact congrArg (Token.unexpected · expected) served.token_eq
    · exact Token.unexpected_honoured _ expected

end Tokenizer

/-! ## Texts -/

namespace Parse

/-- Results that agree in everything are equal. -/
theorem Agree.fst_eq {σ τ α : Type}
    {alike stuck : σ → τ → Prop}
    {result : Result σ α}
    {result' : Result τ α}
    (both : Agree alike stuck (fun e e' => e = e' ∧ e.Honoured) result result') :
    result.1 = result'.1 := by
  cases both with
  | ok => rfl
  | error agreed => rw [agreed.1]

variable (text : String)

/-- What is parsed from a text may as well be parsed from its characters. -/
theorem wholeExpression_text :
    (wholeExpression (Tokenizer.ofSource (Cursor.ofString text))).1 =
      (wholeExpression (Tokenizer.ofSource (Reader.ofList text.toList))).1 :=
  (((Tokenizer.feedSimulation (Cursor.rewinding text)).wholeExpression_tracks
    _ _).agree
    (Tokenizer.alike_ofSource (Cursor.models_ofString text)) id).fst_eq

theorem expressions_text (multiple : Bool) :
    (expressions multiple (Tokenizer.ofSource (Cursor.ofString text))).1 =
      (expressions multiple (Tokenizer.ofSource (Reader.ofList text.toList))).1 :=
  (((Tokenizer.feedSimulation (Cursor.rewinding text)).expressions_tracks
    multiple _ _).agree
    (Tokenizer.alike_ofSource (Cursor.models_ofString text)) id).fst_eq

end Parse

/-! ## Runs of a tokenizer -/

/-- What can be done with a tokenizer. -/
inductive Step where
  | get (flags : Flags)
  | unget
  | expression
  | wholeExpression
  | expressions (multiple : Bool)
  deriving DecidableEq, Repr

namespace Step

variable {σ : Type} [CharSource σ]

/-- The trees that a step yields, or its error, and the tokenizer behind it. -/
def perform (step : Step) (tokenizer : Tokenizer σ) :
    Except Error (List Expr) × Tokenizer σ :=
  match step with
  | get flags => (.ok [], tokenizer.get flags)
  | unget => (.ok [], tokenizer.unget)
  | expression =>
    let (tree, tokenizer) := Parse.expression tokenizer
    (tree.map ([·]), tokenizer)
  | wholeExpression =>
    let (tree, tokenizer) := Parse.wholeExpression tokenizer
    (tree.map ([·]), tokenizer)
  | expressions multiple => Parse.expressions multiple tokenizer

/-- What can be seen after a step. -/
structure Observation where
  outcome : Except Error (List Expr)
  token : Token
  failure : Option ScanFailure

/-- What is seen while steps are taken one after the other. -/
def run : List Step → Tokenizer σ → List Observation
  | [], _ => []
  | step :: steps, tokenizer =>
    let (outcome, tokenizer) := step.perform tokenizer
    ⟨outcome, tokenizer.token, tokenizer.failure⟩ :: run steps tokenizer

/-- Nothing is seen of a mark that was refused. -/
def Observation.Honoured (seen : Observation) : Prop :=
  (∀ fault, seen.failure = some fault → fault.cause ≠ .staleMark) ∧
    ∀ e, seen.outcome = .error e → e.Honoured

variable {τ : Type} [CharSource τ] {alike : σ → τ → Prop}
variable {left : Tokenizer σ} {right : Tokenizer τ}

omit [CharSource σ] [CharSource τ] in
/-- Results that agree are equal, and so is whatever is made of them. -/
theorem map_alike {α : Type}
    {result : Parse.Result (Tokenizer σ) α}
    {result' : Parse.Result (Tokenizer τ) α}
    (f : α → List Expr)
    (both : Parse.Agree (Tokenizer.Alike alike) (Tokenizer.Alike alike)
      (fun e e' => e = e' ∧ e.Honoured) result result') :
    result.1.map f = result'.1.map f ∧
      (∀ e, result.1.map f = .error e → e.Honoured) ∧
        result.2.Alike alike result'.2 := by
  cases both with
  | ok related => exact ⟨rfl, nofun, related⟩
  | error agreed halted =>
      rcases agreed with ⟨rfl, honoured⟩
      refine ⟨rfl, ?_, halted⟩
      intro e found
      cases found
      exact honoured

/-- One step with related tokenizers. -/
theorem perform_alike
    (rewinding : Rewinding alike)
    (step : Step)
    (same : left.Alike alike right) :
    (step.perform left).1 = (step.perform right).1 ∧
      (∀ e, (step.perform left).1 = .error e → e.Honoured) ∧
        (step.perform left).2.Alike alike (step.perform right).2 := by
  have simulation := Tokenizer.feedSimulation rewinding
  cases step with
  | get flags => exact ⟨rfl, nofun, same.get rewinding flags⟩
  | unget => exact ⟨rfl, nofun, same.unget⟩
  | expression =>
      exact map_alike ([·]) ((simulation.expression_tracks _ _).agree same id)
  | wholeExpression =>
      exact map_alike ([·]) ((simulation.wholeExpression_tracks _ _).agree same id)
  | expressions multiple =>
      have agree :=
        map_alike id ((simulation.expressions_tracks multiple _ _).agree same id)
      rwa [Except.map_id] at agree

/-- Many steps, by induction on them. -/
theorem run_alike
    (rewinding : Rewinding alike)
    (steps : List Step)
    (same : left.Alike alike right) :
    run steps left = run steps right ∧ ∀ seen ∈ run steps left, seen.Honoured := by
  induction steps generalizing left right with
  | nil => simp [run]
  | cons step steps ih =>
      rcases perform_alike rewinding step same with
        ⟨sameOutcome, honoured, related⟩
      rcases ih related with ⟨sameRest, honouredRest⟩
      constructor
      · simp only [run, sameOutcome, related.token_eq, related.failure_eq,
          sameRest]
      · intro seen isSeen
        rw [run, List.mem_cons] at isSeen
        rcases isSeen with rfl | later
        · exact ⟨related.honoured, honoured⟩
        · exact honouredRest seen later

/--
Whatever is done with a tokenizer, in any order and also after errors, a cursor
and a stream over the same characters show the same after every step, and the
stream honours every mark that it is asked to go back to.
-/
theorem run_cursor_eq_run_stream
    (text : String)
    (steps : List Step) :
    run steps (.ofSource (Cursor.ofString text)) =
        run steps (.ofSource (CharStream.ofList text.toList)) ∧
      ∀ seen ∈ run steps (.ofSource (CharStream.ofList text.toList)),
        seen.Honoured := by
  have cursor := run_alike (Cursor.rewinding text) steps
    (Tokenizer.alike_ofSource (Cursor.models_ofString text))
  have stream := run_alike CharStream.rewinding steps
    (Tokenizer.alike_ofSource (CharStream.models_ofList text.toList))
  exact ⟨cursor.1.trans stream.1.symm, stream.2⟩

end Step

end Formula
