import Formula.Value.Convert

/-!
# Options of the command line

What the arguments of the program ask for.  Arguments that make no sense are
refused as a whole.
-/

namespace Formula.CommandLine

/-- What the program is to do. -/
structure Options where
  /-- Variables to define, in the order of the arguments. -/
  definitions : List (String × Value) := []
  /-- Show trees instead of evaluating them. -/
  trees : Bool := false
  /-- Accept lists of expressions. -/
  multiple : Bool := false
  /-- The file to read expressions from, instead of a prompt. -/
  file : Option String := none

namespace Options

/-- A definition `NAME=VALUE`.  A value that spells no literal is a string. -/
def definition? (argument : String) : Option (String × Value) :=
  match argument.toList.dropWhile (· ≠ '=') with
  | [] => none
  | _ :: value =>
    let name := String.ofList (argument.toList.takeWhile (· ≠ '='))
    let text := String.ofList value
    some (Text.trim name, (Value.ofLiteral? text).getD (.str text))

/-- Adds a definition. -/
def define? (options : Options) (argument : String) : Option Options := do
  let defined ← definition? argument
  return { options with definitions := options.definitions ++ [defined] }

/-- Asks for trees, which may be done once. -/
def showTrees? (options : Options) : Option Options :=
  if options.trees then none else some { options with trees := true }

/-- Asks for lists, which may be done once. -/
def acceptLists? (options : Options) : Option Options :=
  if options.multiple then none else some { options with multiple := true }

/-- Sets the file, which may be done once and not to an empty name. -/
def read? (options : Options) (file : String) : Option Options :=
  if options.file.isSome || file.isEmpty then none
  else some { options with file := some file }

/-- What follows `start` in an argument that starts with it. -/
def after? (start argument : String) : Option String :=
  if start.toList.isPrefixOf argument.toList then
    some (String.ofList (argument.toList.drop start.length))
  else
    none

/-- Whether an argument is an option, and so can be no value of one. -/
def isOption (argument : String) : Bool :=
  argument.toList.head? = some '-' && argument ≠ "-"

/-- The arguments behind the options, which name files. -/
def addFiles? (options : Options) (arguments : List String) : Option Options :=
  arguments.foldlM read? options

/-- Adds what an argument asks for by itself. -/
def addOne? (options : Options) (argument : String) : Option Options :=
  match after? "--define=" argument with
  | some value => options.define? value
  | none =>
    if !isOption argument then options.read? argument
    else
      match after? "-D" argument with
      | none => none
      | some "" => none
      | some value => options.define? ((after? "=" value).getD value)

/-- The options with what the arguments ask for on top. -/
def addAll? (options : Options) : List String → Option Options
  | [] => some options
  | "--" :: files => options.addFiles? files
  | "--ast" :: rest => do (← options.showTrees?).addAll? rest
  | "--multiple" :: rest => do (← options.acceptLists?).addAll? rest
  | [argument] => options.addOne? argument
  | argument :: value :: rest =>
    if argument = "-D" ∨ argument = "--define" then
      if isOption value then none
      else do (← options.define? value).addAll? rest
    else do
      (← options.addOne? argument).addAll? (value :: rest)

/-- What a list of arguments asks for, unless it is refused. -/
def ofArguments? (arguments : List String) : Option Options :=
  addAll? {} arguments

end Options

end Formula.CommandLine
