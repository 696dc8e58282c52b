import Formula.Eval.Builtin

/-!
# Variables

A set of named values, in the order of their names.  As a host it answers with
the values it holds, and hands all other questions to its parent.  An indexed
variable is stored under a name that is composed of its name and its indices.
-/

namespace Formula

/-- The name under which an indexed variable is stored. -/
def indexedName (name : String) (indices : List Int64) : String :=
  indices.foldl (fun whole index => whole ++ "_" ++ toString index.toInt) name

/-- Values by their names, and the host to ask for what is not among them. -/
structure Variables where
  entries : List (String × Value) := []
  parent : Option Resolver := none

namespace Variables

/-- The entries with `value` under `name`, at its place in the order of names. -/
def insert
    (name : String)
    (value : Value) :
    List (String × Value) → List (String × Value)
  | [] => [(name, value)]
  | entry :: rest =>
    if name < entry.1 then (name, value) :: entry :: rest
    else if entry.1 < name then entry :: insert name value rest
    else (name, value) :: rest

/-- The value of a variable. -/
def get? (scope : Variables) (name : String) : Option Value :=
  scope.entries.lookup name

/-- Gives a variable a value, and returns the one that it had. -/
def set
    (scope : Variables)
    (name : String)
    (value : Value) :
    Option Value × Variables :=
  (scope.get? name,
    { scope with entries := insert name value scope.entries })

/-- Removes a variable, and returns the value that it had. -/
def unset (scope : Variables) (name : String) : Option Value × Variables :=
  (scope.get? name,
    { scope with entries := scope.entries.filter (·.1 ≠ name) })

/-- Removes all variables. -/
def clear (scope : Variables) : Variables :=
  { scope with entries := [] }

/-- How many variables there are. -/
def size (scope : Variables) : Nat :=
  scope.entries.length

/-- Sets the host behind the variables. -/
def setParent (scope : Variables) (parent : Option Resolver) : Variables :=
  { scope with parent }

/-- The variables that are set one after the other. -/
def ofList
    (entries : List (String × Value))
    (parent : Option Resolver) :
    Variables :=
  entries.foldl (fun scope entry => (scope.set entry.1 entry.2).2) { parent }

/-- The variables as a host. -/
def resolver (scope : Variables) : Resolver where
  lookup name indices :=
    match scope.get? (indexedName name indices) with
    | some value => .ok value
    | none => (scope.parent.getD .builtin).lookup name indices
  call := (scope.parent.getD .builtin).call

/-- The variables and whether there is a host behind them, for people to read. -/
def describe (scope : Variables) : String :=
  let entry (named : String × Value) :=
    "(" ++ Text.diagnostic named.1 ++ ", " ++ named.2.describe ++ ")"
  "Variables \x7b values: [" ++ ", ".intercalate (scope.entries.map entry) ++
    "], parent: " ++ toString scope.parent.isSome ++ " \x7d"

end Variables

end Formula
