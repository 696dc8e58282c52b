import Formula.CommandLine.Session

/-!
# The program

Evaluates expressions, one to a line, from a file or at a prompt.
-/

open Formula.CommandLine

/-- Answers lines from the standard input until it ends. -/
partial def answerLines (options : Options) : IO Unit := do
  let output ← IO.getStdout
  output.putStr Options.prompt
  output.flush
  let line ← (← IO.getStdin).getLine
  unless line.isEmpty do
    output.putStr (options.promptBlock line.toList)
    answerLines options

/-- Runs the program and returns its exit status. -/
def main (arguments : List String) : IO UInt32 := do
  match Options.ofArguments? arguments with
  | none =>
    IO.eprintln "Usage: [-D NAME=VALUE]... [--ast] [--multiple] [FILE]"
    return 2
  | some options =>
    match options.file with
    | none =>
      answerLines options
      return 0
    | some file =>
      let report := options.runFile (← IO.FS.readFile file)
      (← IO.getStdout).putStr report.output
      (← IO.getStderr).putStr report.errors
      return report.status.toUInt32
