import Formula.Proofs.CommandLine.Lines
import Formula.Proofs.Shown.Expressions

/-!
# Sessions line by line

A session with a file goes over the lines of the file, counts them and the
failures among them, and numbers the lines that fail.  A session at a prompt
reads lines as long as there are any, and numbers none.  What is printed for a
line depends on nothing but the line, apart from the number, so that both
sessions print the same for the same line.  A file may have comments.
-/

namespace Formula.CommandLine

open Shown

namespace Options

/-! ## Blocks -/

/-- The line says nothing, or nothing but a comment. -/
def Skipped (line : String) : Prop :=
  line.isEmpty ∨ ['/', '/'] <+: line.toList

theorem isSkipped_iff (line : String) : isSkipped line = true ↔ Skipped line := by
  rw [isSkipped, Skipped, Bool.or_eq_true, List.isPrefixOf_iff_prefix]

/-- What a session prints for a line without blanks around it, but for the number
of the line, and whether it is an error. -/
inductive Prints (options : Options) (line : String) : String → Bool → Prop where
  | nothing :
      Skipped line → Prints options line "" false
  /-- All trees, one to a line. -/
  | trees {expression : Expression} {output : String} :
      ¬ Skipped line → options.trees = true →
        Expression.parse line options.multiple = .ok expression →
          output = String.join (expression.exprs.map (·.shown ++ "\n")) →
            lines output.toList = expression.exprs.map (·.shown.toList) →
              Prints options line output false
  /-- All results on one line. -/
  | results {expression : Expression} {values : List Value} {results : String} :
      ¬ Skipped line → options.trees = false →
        Expression.parse line options.multiple = .ok expression →
          expression.evaluateAll.run options.host = .ok values →
            results = "; ".intercalate (values.map Value.quoted) →
              lines (results ++ "\n").toList = [results.toList] →
                Prints options line (results ++ "\n") false
  /-- The line is no expression. -/
  | unread {e : Error} :
      ¬ Skipped line → Expression.parse line options.multiple = .error e →
        Prints options line (e.message ++ "\n") true
  /-- One of the members has no value. -/
  | failed {expression : Expression} {e : Error} :
      ¬ Skipped line → options.trees = false →
        Expression.parse line options.multiple = .ok expression →
          expression.evaluateAll.run options.host = .error e →
            Prints options line (e.message ++ "\n") true

/-- What is printed for a line, but for its number, and whether it is an error. -/
def body (options : Options) (line : String) : String × Bool :=
  if isSkipped line then ("", false)
  else
    match options.answer line with
    | .ok output => (output, false)
    | .error e => (e.message ++ "\n", true)

/-- Errors come with the number of their line. -/
def numbered (number : Nat) (body : String × Bool) : String :=
  if body.2 then s!"[line {number}] " ++ body.1 else body.1

variable (options : Options)

theorem unbroken_results (values : List Value) :
    Unbroken ("; ".intercalate (values.map Value.quoted)).toList := by
  cases values with
  | nil => exact nofun
  | cons value values =>
      rw [Grammar.toList_intercalate_quoted]
      refine (unbroken_quoted value).append fun c isMember => ?_
      rcases List.mem_flatMap.mp isMember with ⟨next, _, inNext⟩
      have unbroken : Unbroken (';' :: ' ' :: next.quoted.toList) :=
        ((unbroken_quoted next).cons (by decide)).cons (by decide)
      exact unbroken c inNext

/-- Results are a single line. -/
theorem lines_results (values : List Value) :
    lines ("; ".intercalate (values.map Value.quoted) ++ "\n").toList =
      [("; ".intercalate (values.map Value.quoted)).toList] := by
  have noFeed : '\n' ∉ ("; ".intercalate (values.map Value.quoted)).toList :=
    fun isMember => (unbroken_results values _ isMember).1 rfl
  rw [String.toList_append]
  exact (lines_append noFeed []).trans (by rw [lines])

/-- Where trees are not asked for, results are, and the first failure is the
answer. -/
theorem answer_of_results
    {line : String}
    {expression : Expression}
    (noTrees : options.trees = false)
    (parsed : Expression.parse line options.multiple = .ok expression) :
    options.answer line =
      (expression.evaluateAll.run options.host).map fun values =>
        "; ".intercalate (values.map Value.quoted) ++ "\n" := by
  rw [answer, parsed, noTrees]
  show (expression.evaluateAll.run options.host >>= _) = _
  cases expression.evaluateAll.run options.host <;> rfl

theorem prints_body (line : String) :
    Prints options line (options.body line).1 (options.body line).2 := by
  rw [body]
  split
  case isTrue isSkipped => exact .nothing ((isSkipped_iff line).mp isSkipped)
  case isFalse isRead =>
    rw [isSkipped_iff] at isRead
    cases parsed : Expression.parse line options.multiple with
    | error e =>
        have failed : options.answer line = .error e := by
          rw [answer, parsed]
          rfl
        rw [failed]
        exact .unread isRead parsed
    | ok expression =>
        cases trees : options.trees with
        | true =>
            rw [answer_of_trees trees parsed]
            exact .trees isRead trees parsed rfl
              (lines_shown (Expression.Parsed.ofText parsed).wellShaped)
        | false =>
            rw [options.answer_of_results trees parsed]
            cases evaluated : expression.evaluateAll.run options.host with
            | error e => exact .failed isRead trees parsed evaluated
            | ok values =>
                exact .results isRead trees parsed evaluated rfl
                  (lines_results values)

/-- A file's line is printed with its number, if it fails. -/
theorem fileBlock_eq
    (number : Nat)
    (line : List Char) :
    options.fileBlock number line =
      (numbered number (options.body (trimmed line)),
        (options.body (trimmed line)).2) := by
  rw [fileBlock, body, ← trimmed]
  split
  case isTrue => rfl
  case isFalse =>
    cases options.answer (trimmed line) with
    | ok output => rfl
    | error e => exact congrArg (·, true) String.append_assoc

/-- At a prompt a line is printed without its number.  Comments are not left out
there. -/
theorem promptBlock_eq
    {line : List Char}
    (noComment : ¬ ['/', '/'] <+: (trimmed line).toList) :
    options.promptBlock line = (options.body (trimmed line)).1 := by
  have notPrefix : ['/', '/'].isPrefixOf (trimmed line).toList = false := by
    rw [← List.isPrefixOf_iff_prefix] at noComment
    exact eq_false_of_ne_true noComment
  rw [promptBlock, body, isSkipped, notPrefix, Bool.or_false, ← trimmed]
  split
  case isTrue => rfl
  case isFalse => cases options.answer (trimmed line) <;> rfl

end Options

/-! ## Files -/

/-- What the loop over the lines of a file has come to. -/
structure FileLoop where
  /-- How many lines it has seen. -/
  number : Nat := 0
  /-- How many of them failed. -/
  failed : Nat := 0
  /-- What was printed for them. -/
  output : String := ""

namespace FileLoop

/-- Goes on to the next line. -/
def step (options : Options) (loop : FileLoop) (line : List Char) : FileLoop :=
  let block := options.fileBlock (loop.number + 1) line
  { number := loop.number + 1
    failed := if block.2 then loop.failed + 1 else loop.failed
    output := loop.output ++ block.1 }

/-- What is left behind at the end of the file. -/
def report (loop : FileLoop) : Report where
  status := if loop.failed = 0 then 0 else 1
  output := loop.output
  errors :=
    if loop.failed = 0 then "" else s!"Error: {loop.failed} expression(s) failed\n"

/-- The blocks of lines that are numbered behind those that were seen. -/
def blocks (options : Options) (loop : FileLoop) (texts : List (List Char)) :
    List (String × Bool) :=
  texts.mapIdx fun i line => options.fileBlock (loop.number + i + 1) line

theorem blocks_cons
    (options : Options)
    (loop : FileLoop)
    (line : List Char)
    (texts : List (List Char)) :
    loop.blocks options (line :: texts) =
      options.fileBlock (loop.number + 1) line ::
        (loop.step options line).blocks options texts := by
  rw [blocks, blocks, List.mapIdx_cons, Nat.add_zero]
  refine congrArg (_ :: List.mapIdx · texts) (funext fun i => ?_)
  rw [step, Nat.add_right_comm loop.number 1 i, Nat.add_assoc loop.number i 1]

/-- The loop counts lines and failures and prints block by block.  The induction
is on the lines that are still to come. -/
theorem foldl_step
    (options : Options)
    (texts : List (List Char))
    (loop : FileLoop) :
    texts.foldl (step options) loop =
      { number := loop.number + texts.length
        failed := loop.failed + (loop.blocks options texts).countP (·.2)
        output := loop.output ++
          String.join ((loop.blocks options texts).map (·.1)) } := by
  induction texts generalizing loop with
  | nil =>
      rw [List.foldl_nil, blocks, List.mapIdx_nil, List.countP_nil, List.map_nil,
        String.join_nil, String.append_empty]
      rfl
  | cons line texts ih =>
      have number : (loop.step options line).number + texts.length =
          loop.number + (line :: texts).length := by
        show loop.number + 1 + texts.length = loop.number + (texts.length + 1)
        omega
      have failed (rest : Nat) :
          (loop.step options line).failed + rest =
            loop.failed + (rest +
              if (options.fileBlock (loop.number + 1) line).2 then 1 else 0) := by
        rw [step]
        dsimp only
        split <;> omega
      have output : (loop.step options line).output =
          loop.output ++ (options.fileBlock (loop.number + 1) line).1 := rfl
      rw [List.foldl_cons, ih, blocks_cons, List.countP_cons, List.map_cons,
        String.join_cons, ← String.append_assoc, number, failed, output]

end FileLoop

/-! ## Prompts -/

/-- Reads lines and answers them as long as there are any. -/
def promptLoop (options : Options) (text : List Char) : String :=
  if _more : (readLine text).1 = [] then Options.prompt
  else
    Options.prompt ++ options.promptBlock (readLine text).1 ++
      promptLoop options (readLine text).2
termination_by text.length
decreasing_by exact length_readLine_lt _more

/-- Every read is preceded by a prompt, and so is the one that finds nothing. -/
theorem promptLoop_eq
    (options : Options)
    (text : List Char) :
    promptLoop options text =
      String.join ((endedLines text).map fun line =>
        Options.prompt ++ options.promptBlock line) ++ Options.prompt := by
  fun_induction promptLoop options text with
  | case1 text atEnd =>
      rw [endedLines, dif_pos atEnd, List.map_nil, String.join_nil,
        String.empty_append]
  | case2 text more ih =>
      rw [endedLines, dif_neg more, List.map_cons, String.join_cons, ih]
      exact String.append_assoc.symm

namespace Options

variable (options : Options)

/-! ## Both sessions -/

/-- What a session with a file prints, line by line. -/
def fileTexts (text : List Char) : List String :=
  (fileLines text).mapIdx fun i line =>
    numbered (i + 1) (options.body (trimmed line))

/-- How many lines of a file fail. -/
def failures (text : List Char) : Nat :=
  (fileLines text).countP fun line => (options.body (trimmed line)).2

/-- The report of a session with a file is that of the loop over its lines.  All
that is printed is printed for the lines, and the failures decide the status. -/
structure FileSession (text : List Char) (report : Report) : Prop where
  loop : report = ((fileLines text).foldl (FileLoop.step options) {}).report
  output : report.output = String.join (options.fileTexts text)
  succeeds : options.failures text = 0 → report.status = 0 ∧ report.errors = ""
  fails : options.failures text ≠ 0 → report.status = 1 ∧
    report.errors = s!"Error: {options.failures text} expression(s) failed\n"

/-- The report of a session at a prompt is that of the loop that reads lines.
Without comments the same is printed for each of them as for a line of a
file, apart from the number. -/
structure PromptSession (text : List Char) (report : Report) : Prop where
  loop : report = { status := 0, output := promptLoop options text, errors := "" }
  output : (∀ line ∈ fileLines text, ¬ ['/', '/'] <+: (trimmed line).toList) →
    report.output =
      String.join ((fileLines text).map fun line =>
        prompt ++ (options.body (trimmed line)).1) ++ prompt

/-- What is made of trimmed lines by their numbers does not depend on how they are
cut. -/
theorem mapIdx_fileLines {α : Type}
    (make : Nat → String → α)
    (text : List Char) :
    (lines text).mapIdx (fun i line => make i (trimmed line)) =
      (fileLines text).mapIdx fun i line => make i (trimmed line) := by
  have ofTrimmed (texts : List (List Char)) :
      texts.mapIdx (fun i line => make i (trimmed line)) =
        (texts.map trimmed).mapIdx make := by
    apply List.ext_getElem?
    intro i
    simp only [List.getElem?_mapIdx, List.getElem?_map, Option.map_map,
      Function.comp_def]
  rw [ofTrimmed, ofTrimmed, map_trimmed_fileLines]

/-- The blocks of a session with a file, with the bodies of its lines in them. -/
theorem blocks_fileLines (text : List Char) :
    FileLoop.blocks options {} (fileLines text) =
      (fileLines text).mapIdx fun i line =>
        (numbered (i + 1) (options.body (trimmed line)),
          (options.body (trimmed line)).2) := by
  simp only [FileLoop.blocks, fileBlock_eq, Nat.zero_add]

/-- A file is gone through by the loop over its lines. -/
theorem runFile_eq (text : String) :
    options.runFile text =
      ((fileLines text.toList).foldl (FileLoop.step options) {}).report := by
  have blocks :
      (lines text.toList).mapIdx (fun i line => options.fileBlock (i + 1) line) =
        FileLoop.blocks options {} (fileLines text.toList) := by
    rw [blocks_fileLines]
    simp only [fileBlock_eq]
    exact mapIdx_fileLines
      (fun i line => (numbered (i + 1) (options.body line), (options.body line).2))
      text.toList
  rw [runFile, blocks, FileLoop.foldl_step, List.countP_eq_length_filter,
    FileLoop.report]
  simp only [Nat.zero_add, String.empty_append]

theorem join_blocks (text : List Char) :
    String.join ((FileLoop.blocks options {} (fileLines text)).map (·.1)) =
      String.join (options.fileTexts text) := by
  rw [blocks_fileLines, fileTexts, List.mapIdx_eq_zipIdx_map,
    List.mapIdx_eq_zipIdx_map, List.map_map]
  refine congrArg String.join (List.map_congr_left ?_)
  rintro ⟨line, i⟩ _
  simp only [Function.comp_apply]

theorem countP_blocks (text : List Char) :
    (FileLoop.blocks options {} (fileLines text)).countP (·.2) =
      options.failures text := by
  have withoutNumbers : options.failures text =
      (fileLines text).zipIdx.countP fun entry =>
        (options.body (trimmed entry.1)).2 := by
    rw [failures, ← (fileLines text).zipIdx_map_fst 0, List.countP_map,
      List.zipIdx_map_fst]
    rfl
  rw [blocks_fileLines, List.mapIdx_eq_zipIdx_map, List.countP_map, withoutNumbers]
  refine List.countP_congr ?_
  rintro ⟨line, i⟩ _
  simp only [Function.comp_apply]

theorem fileSession_runFile (text : String) :
    options.FileSession text.toList (options.runFile text) := by
  have report : options.runFile text =
      { status := if options.failures text.toList = 0 then 0 else 1
        output := String.join (options.fileTexts text.toList)
        errors := if options.failures text.toList = 0 then ""
          else s!"Error: {options.failures text.toList} expression(s) failed\n"
          } := by
    rw [runFile_eq, FileLoop.foldl_step, countP_blocks, join_blocks]
    simp only [FileLoop.report, Nat.zero_add, String.empty_append]
  refine ⟨options.runFile_eq text, by rw [report], fun noFailure => ?_,
    fun someFailure => ?_⟩
  · rw [report]
    exact ⟨if_pos noFailure, if_pos noFailure⟩
  · rw [report]
    exact ⟨if_neg someFailure, if_neg someFailure⟩

/-- At a prompt as well, blanks around a line make no difference. -/
theorem map_promptBlock
    {texts texts' : List (List Char)}
    (same : texts.map trimmed = texts'.map trimmed) :
    texts.map (fun line => prompt ++ options.promptBlock line) =
      texts'.map fun line => prompt ++ options.promptBlock line := by
  induction texts generalizing texts' with
  | nil => rw [List.map_eq_nil_iff.mp same.symm]
  | cons line texts ih =>
      rcases List.map_eq_cons_iff.mp same.symm with
        ⟨line', others, rfl, sameLine, sameOthers⟩
      rw [List.map_cons, List.map_cons, ih sameOthers.symm]
      rw [promptBlock, promptBlock, ← trimmed, ← trimmed, sameLine]

/-- A prompt is gone through by the loop that reads lines. -/
theorem runPrompt_eq (text : String) :
    options.runPrompt text =
      { status := 0, output := promptLoop options text.toList, errors := "" } := by
  rw [runPrompt, promptLoop_eq,
    options.map_promptBlock (map_trimmed_lines text.toList)]

theorem promptSession_runPrompt (text : String) :
    options.PromptSession text.toList (options.runPrompt text) := by
  refine ⟨options.runPrompt_eq text, fun noComment => ?_⟩
  have bodies : (fileLines text.toList).map
      (fun line => prompt ++ options.promptBlock line) =
        (fileLines text.toList).map fun line =>
          prompt ++ (options.body (trimmed line)).1 :=
    List.map_congr_left fun line isMember => by
      rw [options.promptBlock_eq (noComment line isMember)]
  rw [runPrompt, options.map_promptBlock (map_trimmed_fileLines text.toList).symm,
    bodies]

/-- Both sessions go over the physical lines.  For a line they print what it says
by itself, with its number in front of errors in a file, and with a prompt in
front of everything at a prompt.  A file with errors fails and tells how many
there are, and a prompt never fails. -/
theorem sessions_line_by_line (file text : String) :
    PhysicalLines text.toList (fileLines text.toList) ∧
      (∀ line, Prints options line (options.body line).1 (options.body line).2) ∧
        options.FileSession text.toList
          ({ options with file := some file }.runFile text) ∧
            options.PromptSession text.toList
              ({ options with file := none }.runPrompt text) :=
  ⟨physicalLines_fileLines text.toList, options.prints_body,
    options.fileSession_runFile text, options.promptSession_runPrompt text⟩

end Options

end Formula.CommandLine
