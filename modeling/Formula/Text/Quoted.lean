import Formula.Text.Classes
import Formula.Text.Printable

/-!
# Quoted texts

Two ways to write a text between quotes.  `literal` is the form of the
expression language, which the scanner reads back.  `diagnostic` is meant for
people: what has no visible form of its own appears as a code point.
-/

namespace Formula.Text

/-- The character that `\` followed by `c` stands for in a string literal. -/
def unescape? : Char → Option Char
  | 'n' => some '\n'
  | 'r' => some '\r'
  | 't' => some '\t'
  | '0' => some '\x00'
  | '\\' => some '\\'
  | '\'' => some '\''
  | '"' => some '"'
  | _ => none

/-- One character between single quotes. -/
def escape : Char → List Char
  | '\\' => ['\\', '\\']
  | '\'' => ['\\', '\'']
  | '\n' => ['\\', 'n']
  | '\r' => ['\\', 'r']
  | '\t' => ['\\', 't']
  | '\x00' => ['\\', '0']
  | c => [c]

/-- The text as a string literal between single quotes. -/
def literal (text : String) : String :=
  String.ofList ('\'' :: text.toList.flatMap escape ++ ['\''])

/-- A character by its code point in hexadecimal, `\u` and braces around it. -/
def codePoint (c : Char) : List Char :=
  ['\\', 'u', '\x7b'] ++ Nat.toDigits 16 c.toNat ++ ['\x7d']

/-- One character between double quotes in diagnostic text. -/
def diagnosticChar : Char → List Char
  | '\x00' => ['\\', '0']
  | '\t' => ['\\', 't']
  | '\r' => ['\\', 'r']
  | '\n' => ['\\', 'n']
  | '"' => ['\\', '"']
  | '\\' => ['\\', '\\']
  | c =>
    if combining.contains c || invisible.contains c then codePoint c
    else [c]

/-- The text between double quotes, for people to read. -/
def diagnostic (text : String) : String :=
  String.ofList ('"' :: text.toList.flatMap diagnosticChar ++ ['"'])

theorem unescape?_escape
    {c d : Char}
    (escaped : escape c = ['\\', d]) :
    unescape? d = some c := by
  rw [escape.eq_def] at escaped
  split at escaped <;> simp_all <;> subst_vars <;> rfl

end Formula.Text
