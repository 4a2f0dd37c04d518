import JsonShape.Json.Printer
import JsonShape.Text.Literal

/-!
# What can be wrong with a document, and where

`Fault` lists what can be wrong with the text of a document: faults of the JSON grammar, then faults of
documents that are read as something more special than JSON.

A reader that fails leaves a `Failure` behind: the fault, the text it had not taken yet, and how many
further bytes it had looked at.  `Failure.position` turns that into a line and a column, both counted
over the bytes that were taken or looked at; the column is the number of bytes since the last line
break.
-/

namespace JsonShape

/-- What stands where something else is wanted. -/
inductive Found where
  | number (n : Number)
  | boolean (b : Bool)
  | string (s : String)
  | null
  | sequence
  | map
deriving DecidableEq

def Found.text : Found → String
  | number (.integer n) => "integer `" ++ toString n ++ "`"
  | number (.double x) => "floating point `" ++ x.text ++ "`"
  | boolean true => "boolean `true`"
  | boolean false => "boolean `false`"
  | string s => "string " ++ literal s
  | null => "null"
  | sequence => "sequence"
  | map => "map"

/-- What a document is, seen from outside. -/
def Json.found : Json → Found
  | null => .null
  | bool b => .boolean b
  | number n => .number n
  | string s => .string s
  | array _ => .sequence
  | object _ => .map

inductive Fault where
  | valueEnds
  | stringEnds
  | listEnds
  | objectEnds
  | badWord
  | noValue
  | badNumber
  | outOfRange
  | controlCharacter
  | badEscape
  | loneSurrogate
  | escapeEnds
  | trailingComma
  | noListComma
  | noObjectComma
  | noColon
  | noKey
  | tooDeep
  | trailing
  | invalidType (found : Found) (wanted : String)
  | invalidValue (n : Int) (wanted : String)
  | unknownVariant (name : String) (known : List String)
  | missingField (name : String)
  | duplicateField (name : String)
  | duplicateName (name : String)
  | invalidLength (length : Nat) (wanted : String)
  | noVariant (type : String)
deriving DecidableEq

namespace Fault

/-- Names in backquotes, with commas between them. -/
def listed : List String → String
  | [] => ""
  | [name] => "`" ++ name ++ "`"
  | name :: rest => "`" ++ name ++ "`, " ++ listed rest

def message : Fault → String
  | valueEnds => "EOF while parsing a value"
  | stringEnds => "EOF while parsing a string"
  | listEnds => "EOF while parsing a list"
  | objectEnds => "EOF while parsing an object"
  | badWord => "expected ident"
  | noValue => "expected value"
  | badNumber => "invalid number"
  | outOfRange => "number out of range"
  | controlCharacter => "control character (\\u0000-\\u001F) found while parsing a string"
  | badEscape => "invalid escape"
  | loneSurrogate => "lone leading surrogate in hex escape"
  | escapeEnds => "unexpected end of hex escape"
  | trailingComma => "trailing comma"
  | noListComma => "expected `,` or `]`"
  | noObjectComma => "expected `,` or `\x7d`"
  | noColon => "expected `:`"
  | noKey => "key must be a string"
  | tooDeep => "recursion limit exceeded"
  | trailing => "trailing characters"
  | invalidType found wanted => "invalid type: " ++ found.text ++ ", expected " ++ wanted
  | invalidValue n wanted => "invalid value: integer `" ++ toString n ++ "`, expected " ++ wanted
  | unknownVariant name known =>
    "unknown variant `" ++ name ++ "`, expected one of " ++ listed known
  | missingField name => "missing field `" ++ name ++ "`"
  | duplicateField name => "duplicate field `" ++ name ++ "`"
  | duplicateName name => "duplicate field name `" ++ name ++ "`"
  | invalidLength length wanted =>
    "invalid length " ++ toString length ++ ", expected " ++ wanted
  | noVariant type => "data did not match any variant of untagged enum " ++ type

end Fault

/-- A step from a document to a place in it: a member, an element, or somewhere between members. -/
inductive PlaceStep where
  | key (name : String)
  | index (i : Nat)
  | between
deriving DecidableEq

namespace PlaceStep

/-- Further steps of a place, each after a point unless it is an index. -/
def further : List PlaceStep → String
  | [] => ""
  | key name :: rest => "." ++ name ++ further rest
  | index i :: rest => "[" ++ toString i ++ "]" ++ further rest
  | between :: rest => ".?" ++ further rest

/-- A place as text; the document itself is a point. -/
def render : List PlaceStep → String
  | [] => "."
  | key name :: rest => name ++ further rest
  | index i :: rest => "[" ++ toString i ++ "]" ++ further rest
  | between :: rest => "?" ++ further rest

end PlaceStep

/-- A place in a text: its line from 1, and the bytes of that line before it. -/
structure Position where
  line : Nat
  column : Nat
deriving DecidableEq

namespace Position

def start : Position := ⟨1, 0⟩

/-- The position after a character. -/
def next (p : Position) (c : Char) : Position :=
  if c = '\n' then ⟨p.line + 1, 0⟩ else ⟨p.line, p.column + c.utf8Size⟩

/-- The position some bytes further on, at most at the end of the text. -/
def ahead : Nat → List Char → Position → Position
  | _, [], p => p
  | bytes, c :: rest, p =>
    if c.utf8Size ≤ bytes then ahead (bytes - c.utf8Size) rest (p.next c)
    else ⟨p.line, p.column + bytes⟩

def text (p : Position) : String :=
  " at line " ++ toString p.line ++ " column " ++ toString p.column

end Position

/-- What a reader leaves behind that fails: the fault, the text it has not taken, the bytes of that
text it has looked at, and the place in the document that it was reading. -/
structure Failure where
  fault : Fault
  rest : List Char
  seen : Nat
  place : List PlaceStep

namespace Failure

/-- The position in the whole text up to which a failed reader has looked. -/
def position (f : Failure) (text : List Char) : Position :=
  Position.ahead f.seen f.rest
    ((text.take (text.length - f.rest.length)).foldl Position.next Position.start)

/-- The failure as seen from one level further out. -/
def inside (step : PlaceStep) (f : Failure) : Failure := { f with place := step :: f.place }

end Failure

/-- A reader takes a value from the front of a text and leaves the rest. -/
abbrev Reader (α : Type) : Type := List Char → Except Failure (α × List Char)

/-- The fault lies before the rest of the text. -/
def faultBefore {α : Type} (fault : Fault) (rest : List Char) : Except Failure α :=
  .error ⟨fault, rest, 0, []⟩

/-- The fault is in the first byte of the rest of the text. -/
def faultAt {α : Type} (fault : Fault) (rest : List Char) : Except Failure α :=
  .error ⟨fault, rest, 1, []⟩

/-- What a reader reads at a place inside the document. -/
def atPlace {α : Type} (step : PlaceStep) (result : Except Failure α) : Except Failure α :=
  result.mapError (Failure.inside step)

/-- A fault with the position at which it was found. -/
structure Misread where
  fault : Fault
  position : Position
deriving DecidableEq

def Misread.message (m : Misread) : String := m.fault.message ++ m.position.text

/-- The failure of a reader that was given the whole of a text. -/
def Failure.misread (f : Failure) (text : List Char) : Misread := ⟨f.fault, f.position text⟩

end JsonShape
