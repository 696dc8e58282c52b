import Formula.Eval.Dialogue
import Formula.Value.Convert

/-!
# Built-in functions

Average, greatest, least and root mean square of any number of values.  Without
arguments they have nothing to compute on; an empty argument decides the result.
-/

namespace Formula.Builtin

/-- The result of a built-in function on arguments that leave nothing to
compute. -/
def degenerate? (arguments : List Value) : Option Value :=
  if arguments.isEmpty then some .null
  else if arguments.any Value.isAbsent then some .absent
  else if arguments.any Value.isNull then some .null
  else none

/-- A function of the arguments and of the floats that they count as. -/
def onFloats
    (compute : List Value → List Float → Except Error Value)
    (arguments : List Value) :
    Except Error Value :=
  match degenerate? arguments with
  | some value => .ok value
  | none => do
    compute arguments (← arguments.mapM Value.fetchFloat)

/-- The sum of floats from left to right. -/
def sum (xs : List Float) : Float :=
  xs.foldl (· + ·) (-0.0)

/-- The sum of floats divided by their number. -/
def mean (xs : List Float) : Float :=
  sum xs / Number.ofInt xs.length

/-- The average of the arguments. -/
def avg : List Value → Except Error Value :=
  onFloats fun _ xs => .ok (.float (mean xs))

/-- The root of the average square of the arguments. -/
def rms : List Value → Except Error Value :=
  onFloats fun _ xs => .ok (.float (mean (xs.map fun x => x * x)).sqrt)

/-- The value that no later one betters, where each stands beside its float. -/
def winner
    (better : Float → Float → Bool) :
    Value × Float → List (Value × Float) → Value
  | best, [] => best.1
  | best, next :: rest =>
    winner better (if better next.2 best.2 then next else best) rest

/-- The argument that is better than those before it and not worse than those
behind it, as a number. -/
def select (better : Float → Float → Bool) : List Value → Except Error Value :=
  onFloats fun arguments xs =>
    match arguments.zip xs with
    | [] => .ok .null
    | first :: rest => (winner better first rest).castNumeric

/-- The greatest argument, the first one of equals. -/
def max : List Value → Except Error Value :=
  select fun x y => y < x

/-- The least argument, the first one of equals. -/
def min : List Value → Except Error Value :=
  select fun x y => x < y

/-- The result of the function of the given name.  Functions that do not exist
have no value. -/
def call (name : String) (arguments : List Value) : Except Error Value :=
  match name with
  | "avg" => avg arguments
  | "max" => max arguments
  | "min" => min arguments
  | "rms" => rms arguments
  | _ => .ok .absent

end Formula.Builtin

namespace Formula

/-- The host that knows the built-in functions and no variable. -/
def Resolver.builtin : Resolver where
  lookup _ _ := .ok .null
  call := Builtin.call

end Formula
