/-!
# Kinds of tokens

What a token is, apart from its spelling.  Many operators have two spellings, a
symbol and a word, and some words are synonyms: they share one kind.
-/

namespace Formula

/-- The kinds of tokens.  `unread` is the kind of a token that was never read. -/
inductive TokenKind where
  | unread | endOfInput | error
  | identifier | bareword | integer | float | string
  | openParen | closeParen | openBracket | closeBracket
  | comma | question | colon | semicolon
  | and | or | xor | not
  | bitAnd | bitOr | bitXor | bitNot
  | add | sub | mul | div | rem | pow
  | intAdd | intSub | intMul | intDiv | intMod
  | lt | gt | le | ge | ne | eq | cmp
  | intLt | intGt | intLe | intGe | intNe | intEq | intCmp
  | concat | replicate | length | reverse | upper | lower
  | toInt | toFloat | toText | toBool
  | defined | decibel | positive | negative
  | constTrue | constFalse | constNull | constAbsent
  deriving DecidableEq, Repr

namespace TokenKind

/-- The kind's own name, which stands for a token that has no text. -/
def name : TokenKind → String
  | unread => "Unknown"
  | endOfInput => "Eof"
  | error => "Error"
  | identifier => "Identifier"
  | bareword => "Bareword"
  | integer => "IValue"
  | float => "FValue"
  | string => "String"
  | openParen => "LBrace"
  | closeParen => "RBrace"
  | openBracket => "LqBrace"
  | closeBracket => "RqBrace"
  | comma => "Comma"
  | question => "Question"
  | colon => "Colon"
  | semicolon => "Semicolon"
  | and => "And"
  | or => "Or"
  | xor => "Xor"
  | not => "Not"
  | bitAnd => "Band"
  | bitOr => "Bor"
  | bitXor => "Bxor"
  | bitNot => "Bnot"
  | add => "Add"
  | sub => "Sub"
  | mul => "Mul"
  | div => "Div"
  | rem => "Fmod"
  | pow => "Pow"
  | intAdd => "Iadd"
  | intSub => "Isub"
  | intMul => "Imul"
  | intDiv => "Idiv"
  | intMod => "Imod"
  | lt => "Less"
  | gt => "Greater"
  | le => "LessEq"
  | ge => "GreaterEq"
  | ne => "NotEq"
  | eq => "Eq"
  | cmp => "Cmp"
  | intLt => "Iless"
  | intGt => "Igreater"
  | intLe => "IlessEq"
  | intGe => "IgreaterEq"
  | intNe => "InotEq"
  | intEq => "Ieq"
  | intCmp => "Icmp"
  | concat => "Scat"
  | replicate => "Srep"
  | length => "Slen"
  | reverse => "Srev"
  | upper => "Supr"
  | lower => "Slwr"
  | toInt => "Int"
  | toFloat => "Float"
  | toText => "Str"
  | toBool => "Bool"
  | defined => "Ex"
  | decibel => "Db"
  | positive => "Psign"
  | negative => "Nsign"
  | constTrue => "True"
  | constFalse => "False"
  | constNull => "Null"
  | constAbsent => "Undef"

/-- Whether the kind is that of an operator or a constant of the language. -/
def isKeyword : TokenKind → Bool
  | unread | endOfInput | error
  | identifier | bareword | integer | float | string
  | openParen | closeParen | openBracket | closeBracket
  | comma | question | colon | semicolon => false
  | _ => true

/-- The words that are not free for names, in alphabetical order. -/
def keywords : List (String × TokenKind) :=
  [("add", add), ("and", and), ("band", bitAnd), ("bnot", bitNot),
   ("bool", toBool), ("bor", bitOr), ("bxor", bitXor), ("cmp", cmp),
   ("db", decibel), ("div", div), ("eq", eq), ("ex", defined),
   ("false", constFalse), ("float", toFloat), ("fmod", rem), ("ge", ge),
   ("gt", gt), ("iadd", intAdd), ("icmp", intCmp), ("idiv", intDiv),
   ("ie", intEq), ("ieq", intEq), ("ige", intGe), ("igt", intGt),
   ("ile", intLe), ("ilt", intLt), ("imod", intMod), ("imul", intMul),
   ("ine", intNe), ("inge", intLt), ("ingt", intLe), ("inle", intGt),
   ("inlt", intGe), ("int", toInt), ("isub", intSub), ("le", le),
   ("lt", lt), ("mod", intMod), ("mul", mul), ("ne", ne),
   ("nge", lt), ("ngt", le), ("nle", gt), ("nlt", ge),
   ("not", not), ("nsign", negative), ("null", constNull), ("or", or),
   ("pow", pow), ("psign", positive), ("sc", concat), ("scat", concat),
   ("slen", length), ("slwr", lower), ("sr", replicate), ("srep", replicate),
   ("srev", reverse), ("str", toText), ("sub", sub), ("supr", upper),
   ("true", constTrue), ("undef", constAbsent), ("x", replicate), ("xor", xor)]

/-- The kind that a word is reserved for. -/
def ofWord? (word : String) : Option TokenKind :=
  keywords.lookup word

theorem isKeyword_of_mem_keywords :
    ∀ entry ∈ keywords, entry.2.isKeyword := by
  decide

end TokenKind

end Formula
