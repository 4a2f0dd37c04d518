import JsonShape.Json.StringReader
import JsonShape.Json.NumberReader

/-!
# Reading JSON

A document is read from the front of a text.  `items` and `members` read the inside of any array or
object, whatever its elements or members are to be; `value` reads a document of at most so many levels
of arrays and objects, and names that an object repeats are all kept.

* `Json.ofText` reads a text that holds one document and nothing else, each name once.
* `mistyped` is the failure of a reader that wanted something else than what comes next.
* `afterList` and `afterObject` say how much of an unfinished array or object is still looked at when
  something is wrong with it as a whole.
-/

namespace JsonShape

/-- The levels of arrays and objects that a document may have. -/
def nestingLimit : Nat := 127

/-- The text after blanks, tabs and line breaks. -/
def skipBlanks : List Char → List Char
  | [] => []
  | c :: rest => if c = ' ' ∨ c = '\n' ∨ c = '\t' ∨ c = '\r' then skipBlanks rest else c :: rest

/-- What comes next inside an array or object: its end, or one more entry. -/
inductive Next where
  | finish (rest : List Char)
  | entry (rest : List Char)

/-- Looks for the next element of an array, after a comma unless it is the first. -/
def nextItem (first : Bool) (text : List Char) : Except Failure Next :=
  match skipBlanks text with
  | [] => faultAt .listEnds []
  | c :: rest =>
    if c = ']' then .ok (.finish (c :: rest))
    else if first then .ok (.entry (c :: rest))
    else if c = ',' then
      match skipBlanks rest with
      | [] => faultAt .valueEnds []
      | c :: rest => if c = ']' then faultAt .trailingComma (c :: rest) else .ok (.entry (c :: rest))
    else faultAt .noListComma (c :: rest)

/-- Looks at the opening quotation mark of a name. -/
def nameStart : List Char → Except Failure Next
  | [] => faultAt .valueEnds []
  | c :: rest =>
    if c = '"' then .ok (.entry rest)
    else if c = '\x7d' then faultAt .trailingComma (c :: rest)
    else faultAt .noKey (c :: rest)

/-- Looks for the next name of an object, after a comma unless it is the first, and takes its opening
quotation mark. -/
def nextName (first : Bool) (text : List Char) : Except Failure Next :=
  match skipBlanks text with
  | [] => faultAt .objectEnds []
  | c :: rest =>
    if c = '\x7d' then .ok (.finish (c :: rest))
    else if first then nameStart (c :: rest)
    else if c = ',' then nameStart (skipBlanks rest)
    else faultAt .noObjectComma (c :: rest)

/-- Takes the colon between a name and its value. -/
def colon (text : List Char) : Except Failure (List Char) :=
  match skipBlanks text with
  | [] => faultAt .objectEnds []
  | c :: rest => if c = ':' then .ok rest else faultAt .noColon (c :: rest)

/-- The elements of an array from the given index on, up to its closing bracket.  There are no more of
them than characters. -/
def itemsFrom {α : Type} (read : Reader α) : Nat → Nat → Reader (List α)
  | 0, _, rest => faultAt .listEnds rest
  | fuel + 1, index, text => do
    match ← nextItem (index == 0) text with
    | .finish rest => return ([], rest.drop 1)
    | .entry rest =>
      let (item, rest) ← atPlace (.index index) (read rest)
      let (items, rest) ← itemsFrom read fuel (index + 1) rest
      return (item :: items, rest)

/-- The elements of an array whose opening bracket has been taken. -/
def items {α : Type} (read : Reader α) : Reader (List α) := fun text =>
  itemsFrom read (text.length + 1) 0 text

/-- The members of an object after those whose names are given, up to its closing brace.  There are no
more of them than characters.  A member is read from the text after its name. -/
def membersFrom {α : Type} (read : List String → String → Reader α) :
    Nat → List String → Reader (List (String × α))
  | 0, _, rest => faultAt .objectEnds rest
  | fuel + 1, names, text => do
    match ← atPlace .between (nextName names.isEmpty text) with
    | .finish rest => return ([], rest.drop 1)
    | .entry rest =>
      let (name, rest) ← atPlace .between (stringAfterQuote rest)
      let (member, rest) ← read names name rest
      let (members, rest) ← membersFrom read fuel (name :: names) rest
      return ((name, member) :: members, rest)

/-- The members of an object whose opening brace has been taken. -/
def members {α : Type} (read : List String → String → Reader α) : Reader (List (String × α)) :=
  fun text => membersFrom read (text.length + 1) [] text

/-- A colon, and then the value of a member. -/
def memberValue {α : Type} (read : Reader α) (name : String) : Reader α := fun text => do
  let rest ← colon text
  atPlace (.key name) (read rest)

/-- The rest of a word, letter by letter. -/
def wordRest : List Char → List Char → Except Failure (List Char)
  | [], rest => .ok rest
  | _ :: _, [] => faultBefore .valueEnds []
  | letter :: letters, c :: rest =>
    if c = letter then wordRest letters rest else faultAt .badWord (c :: rest)

/-- A document of at most so many levels of arrays and objects, after any blanks. -/
def value (levels : Nat) : Reader Json := fun text =>
  match skipBlanks text with
  | [] => faultAt .valueEnds []
  | c :: rest =>
    if c = 'n' then do return (.null, ← wordRest ['u', 'l', 'l'] rest)
    else if c = 't' then do return (.bool true, ← wordRest ['r', 'u', 'e'] rest)
    else if c = 'f' then do return (.bool false, ← wordRest ['a', 'l', 's', 'e'] rest)
    else if c = '"' then do
      let (s, rest) ← stringAfterQuote rest
      return (.string s, rest)
    else if c = '-' then do
      let (n, rest) ← unsignedNumber true rest
      return (.number n, rest)
    else if c.isDigit then do
      let (n, rest) ← unsignedNumber false (c :: rest)
      return (.number n, rest)
    else if c = '[' then
      match levels with
      | 0 => faultAt .tooDeep (c :: rest)
      | levels + 1 => do
        let (elements, rest) ← items (value levels) rest
        return (.array elements, rest)
    else if c = '\x7b' then
      match levels with
      | 0 => faultAt .tooDeep (c :: rest)
      | levels + 1 => do
        let (entries, rest) ← members (fun _ name => memberValue (value levels) name) rest
        return (.object entries, rest)
    else faultAt .noValue (c :: rest)

/-- The failure of a reader that wanted something else than what comes next: a scalar is taken first,
an array or object is not. -/
def mistyped (wanted : String) (text : List Char) : Failure :=
  match skipBlanks text with
  | '[' :: rest => ⟨.invalidType .sequence wanted, '[' :: rest, 0, []⟩
  | '\x7b' :: rest => ⟨.invalidType .map wanted, '\x7b' :: rest, 0, []⟩
  | text =>
    match value 0 text with
    | .ok (document, rest) => ⟨.invalidType document.found wanted, rest, 0, []⟩
    | .error failure => failure

/-- The text after an array that is given up: its closing bracket is taken if it comes next, and so is
a comma. -/
def afterList (text : List Char) : List Char :=
  match skipBlanks text with
  | ']' :: rest => rest
  | ',' :: rest => skipBlanks rest
  | rest => rest

/-- The text after an object that is given up: its closing brace is taken if it comes next. -/
def afterObject (text : List Char) : List Char :=
  match skipBlanks text with
  | '\x7d' :: rest => rest
  | rest => rest

/-- Nothing but blanks may follow. -/
def ending {α : Type} (result : α) (text : List Char) : Except Failure α :=
  match skipBlanks text with
  | [] => .ok result
  | c :: rest => faultAt .trailing (c :: rest)

/-- What a reader makes of a text that it is to take as a whole. -/
def readWhole {α : Type} (read : Reader α) (text : String) : Except Misread α :=
  let outcome := do
    let (result, rest) ← read text.toList
    ending result rest
  outcome.mapError (·.misread text.toList)

/-- The document that a text holds, each name once in every object. -/
def Json.ofText (text : String) : Except Misread Json :=
  (readWhole (value nestingLimit) text).map Json.merged

end JsonShape
