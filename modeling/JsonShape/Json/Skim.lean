import JsonShape.Json.Reader

/-!
# Passing over a value

A member that nobody asks for is passed over without being read.  Its grammar is that of JSON, but
it may be nested to any depth, its numbers may be of any size and its escapes may be of any
surrogates; some faults are named otherwise than where a value is read.
-/

namespace JsonShape.Skim

/-- The text after the closing quotation mark of a string. -/
def string : List Char → Except Failure (List Char)
  | [] => faultBefore .stringEnds []
  | c :: rest =>
    if c = '"' then .ok rest
    else if c = '\\' then
      match rest with
      | [] => faultBefore .stringEnds []
      | 'u' :: a :: b :: x :: y :: rest =>
        if (hexUnit a b x y).isSome then string rest else .error (badUnit (a :: b :: x :: y :: rest))
      | 'u' :: rest => .error (badUnit rest)
      | letter :: rest =>
        if (shortEscape letter).isSome then string rest else faultAt .badEscape (letter :: rest)
    else if c.toNat < 0x20 then faultBefore .controlCharacter (c :: rest)
    else string rest

/-- The text after at least one digit and all that follow it. -/
def digits : List Char → Except Failure (List Char)
  | [] => faultAt .badNumber []
  | c :: rest => if c.isDigit then .ok (skipDigits rest) else faultAt .badNumber (c :: rest)

/-- The text after an exponent, if there is one. -/
def exponent : List Char → Except Failure (List Char)
  | [] => .ok []
  | c :: rest => if isExponentLetter c then digits (exponentSign rest).2 else .ok (c :: rest)

/-- The text after a fraction and an exponent, if there are any. -/
def fraction : List Char → Except Failure (List Char)
  | '.' :: rest => do exponent (← digits rest)
  | rest => exponent rest

/-- The text after a number whose sign has been taken. -/
def number : List Char → Except Failure (List Char)
  | '0' :: d :: rest => if d.isDigit then faultAt .badNumber (d :: rest) else fraction (d :: rest)
  | rest => do fraction (← digits rest)

/-- The text after the elements of an array and its closing bracket. -/
def items (skim : List Char → Except Failure (List Char)) (first : Bool) :
    Nat → List Char → Except Failure (List Char)
  | 0, rest => faultAt .listEnds rest
  | fuel + 1, text =>
    match skipBlanks text with
    | [] => faultAt .listEnds []
    | c :: rest =>
      if c = ']' then .ok rest
      else if first then do items skim false fuel (← skim (c :: rest))
      else if c = ',' then do items skim false fuel (← skim rest)
      else faultAt .noListComma (c :: rest)

/-- The text after a name and its colon. -/
def name (text : List Char) : Except Failure (List Char) :=
  match skipBlanks text with
  | [] => faultAt .objectEnds []
  | c :: rest => if c = '"' then do colon (← string rest) else faultAt .noKey (c :: rest)

/-- The text after the members of an object and its closing brace. -/
def members (skim : List Char → Except Failure (List Char)) (first : Bool) :
    Nat → List Char → Except Failure (List Char)
  | 0, rest => faultAt .objectEnds rest
  | fuel + 1, text =>
    match skipBlanks text with
    | [] => faultAt .objectEnds []
    | c :: rest =>
      if c = '\x7d' then .ok rest
      else if first then do members skim false fuel (← skim (← name (c :: rest)))
      else if c = ',' then do members skim false fuel (← skim (← name rest))
      else faultAt .noObjectComma (c :: rest)

/-- The text after a value with at most so many levels. -/
def valueWithin (levels : Nat) (text : List Char) : Except Failure (List Char) :=
  match skipBlanks text with
  | [] => faultAt .valueEnds []
  | c :: rest =>
    if c = 'n' then wordRest ['u', 'l', 'l'] rest
    else if c = 't' then wordRest ['r', 'u', 'e'] rest
    else if c = 'f' then wordRest ['a', 'l', 's', 'e'] rest
    else if c = '"' then string rest
    else if c = '-' then number rest
    else if c.isDigit then number (c :: rest)
    else if c = '[' then
      match levels with
      | 0 => faultAt .tooDeep (c :: rest)
      | levels + 1 => items (valueWithin levels) true (rest.length + 1) rest
    else if c = '\x7b' then
      match levels with
      | 0 => faultAt .tooDeep (c :: rest)
      | levels + 1 => members (valueWithin levels) true (rest.length + 1) rest
    else faultAt .noValue (c :: rest)

/-- The text after a value; it has no more levels than characters. -/
def value (text : List Char) : Except Failure (List Char) := valueWithin text.length text

end JsonShape.Skim
