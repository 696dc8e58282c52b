import Formula.CommandLine.Options
import Formula.Expression
import Formula.Variables

/-!
# Sessions of the command line

Expressions come one to a line, from a file or from a prompt.  Every line is
answered by itself: the lines before it have no influence on it.
-/

namespace Formula.CommandLine

/-- The lines of a text.  A line feed ends a line, and so does the end of the
text. -/
def lines : List Char → List (List Char)
  | [] => []
  | c :: rest =>
    if c = '\n' then [] :: lines rest
    else
      match lines rest with
      | [] => [[c]]
      | line :: others => (c :: line) :: others

/-- What the program leaves behind. -/
structure Report where
  status : Nat
  output : String
  errors : String
  deriving DecidableEq, Repr

namespace Options

/-- The host of a session: the defined variables and the built-in functions. -/
def host (options : Options) : Resolver :=
  (Variables.ofList options.definitions (some .builtin)).resolver

/-- What is printed for one line that is not blank, or why nothing can be. -/
def answer (options : Options) (line : String) : Except Error String := do
  let expression ← Expression.parse line options.multiple
  if options.trees then
    return String.join (expression.exprs.map (·.shown ++ "\n"))
  else
    let values ← expression.evaluateAll.run options.host
    return "; ".intercalate (values.map Value.quoted) ++ "\n"

/-- Whether a line of a file is left out. -/
def isSkipped (line : String) : Bool :=
  line.isEmpty || ['/', '/'].isPrefixOf line.toList

/-- What is printed for a line of a file, and whether that is an error. -/
def fileBlock
    (options : Options)
    (number : Nat)
    (line : List Char) :
    String × Bool :=
  let line := Text.trim (String.ofList line)
  if isSkipped line then ("", false)
  else
    match options.answer line with
    | .ok output => (output, false)
    | .error e => (s!"[line {number}] " ++ e.message ++ "\n", true)

/-- What is printed for a line of a prompt. -/
def promptBlock (options : Options) (line : List Char) : String :=
  let line := Text.trim (String.ofList line)
  if line.isEmpty then ""
  else
    match options.answer line with
    | .ok output => output
    | .error e => e.message ++ "\n"

/-- What is printed in front of every line that is read. -/
def prompt : String := "> "

/-- The report of a session with a file. -/
def runFile (options : Options) (text : String) : Report :=
  let blocks :=
    (lines text.toList).mapIdx fun i line => options.fileBlock (i + 1) line
  let failed := (blocks.filter (·.2)).length
  { status := if failed = 0 then 0 else 1
    output := String.join (blocks.map (·.1))
    errors :=
      if failed = 0 then "" else s!"Error: {failed} expression(s) failed\n" }

/-- The report of a session at a prompt.  The end of the input is read as well. -/
def runPrompt (options : Options) (text : String) : Report :=
  let blocks :=
    (lines text.toList).map fun line => prompt ++ options.promptBlock line
  { status := 0
    output := String.join blocks ++ prompt
    errors := "" }

end Options

end Formula.CommandLine
