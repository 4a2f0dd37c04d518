import JsonShape.Schema.Basic
import JsonShape.Text.Literal
import JsonShape.Text.Numeric

/-!
# The shape of a schema in one line

`Schema.shape` writes the type of the values that a schema lets through, such as
`(number | null)[]`.  The key of a field that may be missing is marked, and the layers that let it be
missing are then not written again.
-/

namespace JsonShape

/-- Whether a name can stand as a key without quotation marks. -/
def isPlainKey (name : String) : Bool :=
  match name.toList with
  | [] => false
  | c :: rest =>
    (isAlphabetic c || c == '_' || c == '$') &&
      rest.all fun d => isAlphanumeric d || d == '_' || d == '$'

/-- A name as a key. -/
def shapeKey (name : String) : String := if isPlainKey name then name else literal name

namespace Schema

/-- Whether the type of an element takes parentheses: layers around it are written after it. -/
def needsParentheses : Schema → Bool
  | optional _ => true
  | nullable _ => true
  | _ => false

/-- What stands between a key and its type. -/
def keyMark (rule : Schema) : String := if rule.admitsMissing then "?: " else ": "

mutual

/-- The type of what may be supplied; under a key that is marked, of what may be supplied there. -/
def shapeUnder (marked : Bool) : Schema → String
  | string => "string"
  | number => "number"
  | boolean => "boolean"
  | construct [] => "\x7b\x7d"
  | construct ((name, rule) :: rest) =>
    "\x7b " ++ shapeKey name ++ keyMark rule ++ shapeUnder rule.admitsMissing rule ++
      shapeFields rest ++ " \x7d"
  | nullable inner => shapeUnder marked inner ++ " | null"
  | optional inner =>
    if marked then shapeUnder marked inner else shapeUnder marked inner ++ " | undefined"
  | array item =>
    if item.needsParentheses then "(" ++ shapeUnder false item ++ ")[]"
    else shapeUnder false item ++ "[]"

/-- Further fields, each after a semicolon. -/
def shapeFields : List (String × Schema) → String
  | [] => ""
  | (name, rule) :: rest =>
    "; " ++ shapeKey name ++ keyMark rule ++ shapeUnder rule.admitsMissing rule ++ shapeFields rest

end

/-- The type of what may be supplied. -/
def shape (schema : Schema) : String := shapeUnder false schema

end Schema

end JsonShape
