import JsonShape.Json.Basic
import JsonShape.Binary64.Shortest

/-!
# Writing JSON

`Json.compact` writes a document without any white space, `Json.pretty` one member or element a line,
indented by two spaces a level.

* A string is written raw but for the quotation mark, the backslash and the controls below U+0020.
* A whole number is written in decimal digits.  A double is written by its shortest decimal, with a
  point as long as its leading digit stands for a power of ten from `10 ^ -5` to `10 ^ 15`, and with a
  signed exponent otherwise.
-/

namespace JsonShape

namespace Decimal

/-- The digits around a point, at least one on either side of it. -/
def positional (d : Decimal) : List Char :=
  let digits := Nat.toDigits 10 d.digits
  let whole := (digits.length : Int) + d.exponent
  if 0 ≤ d.exponent then digits ++ List.replicate d.exponent.toNat '0' ++ ['.', '0']
  else if 0 < whole then digits.take whole.toNat ++ '.' :: digits.drop whole.toNat
  else '0' :: '.' :: List.replicate (-whole).toNat '0' ++ digits

/-- The digits with a point after the first, if there are more, and the power of ten of the first. -/
def scientific (d : Decimal) : List Char :=
  let digits := Nat.toDigits 10 d.digits
  let power := (digits.length : Int) + d.exponent - 1
  let fraction := if digits.length ≤ 1 then [] else '.' :: digits.drop 1
  let sign := if 0 ≤ power then '+' else '-'
  digits.take 1 ++ fraction ++ 'e' :: sign :: Nat.toDigits 10 power.natAbs

/-- Numbers are written with a point from `0.00001` to below `10 ^ 16`. -/
def text (d : Decimal) : List Char :=
  let power := ((Nat.toDigits 10 d.digits).length : Int) + d.exponent - 1
  if -5 ≤ power ∧ power ≤ 15 then d.positional else d.scientific

end Decimal

/-- A double as its shortest decimal; zero keeps its sign. -/
def Binary64.text (x : Binary64) : String :=
  let size := x.magnitude.shortest.text
  String.ofList (if x.negative then '-' :: size else size)

def Number.text : Number → String
  | .integer n => toString n
  | .double x => x.text

namespace Json

/-- A character as it stands between the quotation marks of a JSON string. -/
def escaped (c : Char) : List Char :=
  match c with
  | '"' => ['\\', '"']
  | '\\' => ['\\', '\\']
  | '\n' => ['\\', 'n']
  | '\r' => ['\\', 'r']
  | '\t' => ['\\', 't']
  | '\x08' => ['\\', 'b']
  | '\x0c' => ['\\', 'f']
  | c =>
    if c.toNat < 0x20 then
      ['\\', 'u', '0', '0', Nat.digitChar (c.toNat / 16), Nat.digitChar (c.toNat % 16)]
    else [c]

/-- A string in quotation marks. -/
def quoted (s : String) : String :=
  String.ofList ('"' :: s.toList.flatMap escaped ++ ['"'])

mutual

/-- The document without white space. -/
def compact : Json → String
  | null => "null"
  | bool true => "true"
  | bool false => "false"
  | number n => n.text
  | string s => quoted s
  | array [] => "[]"
  | array (item :: rest) => "[" ++ compact item ++ compactItems rest ++ "]"
  | object [] => "\x7b\x7d"
  | object ((name, value) :: rest) =>
    "\x7b" ++ quoted name ++ ":" ++ compact value ++ compactMembers rest ++ "\x7d"

/-- Further elements, each after a comma. -/
def compactItems : List Json → String
  | [] => ""
  | item :: rest => "," ++ compact item ++ compactItems rest

/-- Further members, each after a comma. -/
def compactMembers : List (String × Json) → String
  | [] => ""
  | (name, value) :: rest => "," ++ quoted name ++ ":" ++ compact value ++ compactMembers rest

end

/-- A line break and the indentation of a level. -/
def newline (level : Nat) : String := String.ofList ('\n' :: List.replicate (2 * level) ' ')

mutual

/-- The document over several lines, for a place at the given level of indentation. -/
def prettyAt (level : Nat) : Json → String
  | null => "null"
  | bool true => "true"
  | bool false => "false"
  | number n => n.text
  | string s => quoted s
  | array [] => "[]"
  | array (item :: rest) =>
    "[" ++ newline (level + 1) ++ prettyAt (level + 1) item ++ prettyItems (level + 1) rest ++
      newline level ++ "]"
  | object [] => "\x7b\x7d"
  | object ((name, value) :: rest) =>
    "\x7b" ++ newline (level + 1) ++ quoted name ++ ": " ++ prettyAt (level + 1) value ++
      prettyMembers (level + 1) rest ++ newline level ++ "\x7d"

/-- Further elements, each on a line of its own. -/
def prettyItems (level : Nat) : List Json → String
  | [] => ""
  | item :: rest => "," ++ newline level ++ prettyAt level item ++ prettyItems level rest

/-- Further members, each on a line of its own. -/
def prettyMembers (level : Nat) : List (String × Json) → String
  | [] => ""
  | (name, value) :: rest =>
    "," ++ newline level ++ quoted name ++ ": " ++ prettyAt level value ++ prettyMembers level rest

end

/-- The document with one member or element a line. -/
def pretty (document : Json) : String := prettyAt 0 document

end Json

end JsonShape
