import Formula.Text.Cased
import Formula.Text.CaseTable

/-!
# Upper and lower case of texts

The full case mappings of Unicode: one character may become several, and a
capital sigma is lowered by its place in the word.
-/

namespace Formula.Text

/-- The character at the range's distance from `c`, if the range holds `c`. -/
def CaseRange.mapped? (range : CaseRange) (c : Char) : Option Char :=
  if range.first ≤ c.toNat ∧ c.toNat ≤ range.last ∧
      (c.toNat - range.first) % range.step = 0 then
    some (Char.ofNat (c.toNat + range.distance).toNat)
  else
    none

/--
The mapping of `c` by a table of ranges and a table of expansions.  A character
in neither stands for itself.
-/
def mapCase
    (ranges : List CaseRange)
    (expansions : List (Nat × List Nat))
    (c : Char) :
    List Char :=
  match expansions.lookup c.toNat with
  | some codes => codes.map Char.ofNat
  | none => [(ranges.findSome? (·.mapped? c)).getD c]

/-- The uppercase form of one character. -/
def upper (c : Char) : List Char :=
  mapCase upperRanges upperExpansions c

/-- The lowercase form of one character, wherever it stands. -/
def lower (c : Char) : List Char :=
  mapCase lowerRanges lowerExpansions c

/-- Whether the first character that is not case-ignorable is cased. -/
def startsCased (chars : List Char) : Bool :=
  ((chars.dropWhile caseIgnorable.contains).head?.map cased.contains).getD false

/--
A capital sigma between `before`, nearest character first, and `after` ends a
word if a cased character comes before it and none after.
-/
def endsWord (before after : List Char) : Bool :=
  startsCased before && !startsCased after

/-- The lowercase form of `chars`, which stand after `before`. -/
def lowerFrom (before : List Char) : List Char → List Char
  | [] => []
  | c :: after =>
    let lowered :=
      if c = 'Σ' then [if endsWord before after then 'ς' else 'σ'] else lower c
    lowered ++ lowerFrom (c :: before) after

/-- The text with every character in its uppercase form. -/
def uppercase (text : String) : String :=
  String.ofList (text.toList.flatMap upper)

/-- The text with every character in its lowercase form. -/
def lowercase (text : String) : String :=
  String.ofList (lowerFrom [] text.toList)

end Formula.Text
