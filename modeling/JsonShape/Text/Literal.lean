import JsonShape.Text.Printable
import JsonShape.Text.Extending

/-!
# String literals

A string between quotation marks in which every character can be seen: quotation marks, backslashes,
tabs, line breaks and NUL have short escapes, and any other character that shows nothing of its own
or attaches to its neighbour is written as its code point in braces.
-/

namespace JsonShape

/-- The code point in hexadecimal between braces. -/
def codePointEscape (c : Char) : List Char :=
  ['\\', 'u', '\x7b'] ++ Nat.toDigits 16 c.toNat ++ ['\x7d']

/-- A character as it stands inside a literal. -/
def literalChar (c : Char) : List Char :=
  match c with
  | '\x00' => ['\\', '0']
  | '\t' => ['\\', 't']
  | '\r' => ['\\', 'r']
  | '\n' => ['\\', 'n']
  | '\\' => ['\\', '\\']
  | '"' => ['\\', '"']
  | c => if isPrintable c && !isExtending c then [c] else codePointEscape c

/-- The literal of a string. -/
def literal (s : String) : String :=
  String.ofList ('"' :: s.toList.flatMap literalChar ++ ['"'])

end JsonShape
