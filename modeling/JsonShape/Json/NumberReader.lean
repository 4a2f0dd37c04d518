import JsonShape.Json.Fault

/-!
# Reading JSON numbers

A whole number that fits into 64 bits is kept as it is; any other number becomes a double.  The double
is the product or quotient of two doubles, each rounded on its own: the significand, made of the first
digits that fit into 64 bits, and a power of ten.  It may therefore differ in its last bit from the
double nearest to the number as written.
-/

namespace JsonShape

/-- The value of a decimal digit. -/
def digitValue (c : Char) : Nat := c.toNat - '0'.toNat

/-- Appends digits to a significand while it fits into 64 bits, and leaves the other digits. -/
def absorb (significand : Nat) : List Char → Nat × List Char
  | [] => (significand, [])
  | c :: rest =>
    let extended := significand * 10 + digitValue c
    if extended < 1 <<< 64 then absorb extended rest else (significand, c :: rest)

/-- The digits at the front of a text. -/
def leadingDigits (text : List Char) : List Char := text.takeWhile Char.isDigit

/-- The text after the digits at its front. -/
def skipDigits (text : List Char) : List Char := text.dropWhile Char.isDigit

namespace Magnitude

/-- The double nearest to a power of ten that doubles reach. -/
def tenTo? (exponent : Nat) : Option Magnitude := ofNat? (Nat.pow 10 exponent)

/-- Divides by a power of ten in steps of at most 308, the largest that doubles reach. -/
def dividedByTens (a : Magnitude) (exponent : Nat) : Option Magnitude :=
  if exponent ≤ 308 then do a.div? (← tenTo? exponent)
  else if a.isZero then some a
  else do (← a.div? (← tenTo? 308)).dividedByTens (exponent - 308)
termination_by exponent

/-- A magnitude times a power of ten; `none` if that is more than doubles reach. -/
def scaledByTens (a : Magnitude) (exponent : Int) : Option Magnitude :=
  if exponent < 0 then a.dividedByTens exponent.natAbs
  else if exponent ≤ 308 then do a.mul? (← tenTo? exponent.toNat)
  else if a.isZero then some a
  else none

end Magnitude

/-- A double with a sign, written before `rest`, unless there is none so large. -/
def signedDouble (negative : Bool) (magnitude? : Option Magnitude) (rest : List Char) :
    Except Failure (Number × List Char) :=
  match magnitude? with
  | some magnitude => .ok (.double ⟨negative, magnitude⟩, rest)
  | none => faultBefore .outOfRange rest

/-- The double `significand * 10 ^ exponent`, written before `rest`. -/
def doubleOf (negative : Bool) (significand : Nat) (exponent : Int) (rest : List Char) :
    Except Failure (Number × List Char) :=
  signedDouble negative ((Magnitude.ofNat? significand).bind (·.scaledByTens exponent)) rest

/-- Zero with a sign. -/
def zeroOf (negative : Bool) : Number := .double ⟨negative, .zero⟩

/-- Reads digits into an exponent that has begun; `none` with the text after the digit that makes it
too large for 31 bits. -/
def exponentDigits (exponent : Nat) : List Char → Option Nat × List Char
  | [] => (some exponent, [])
  | c :: rest =>
    if c.isDigit then
      let extended := exponent * 10 + digitValue c
      if extended < 1 <<< 31 then exponentDigits extended rest else (none, rest)
    else (some exponent, c :: rest)

/-- The sign of an exponent. -/
def exponentSign : List Char → Bool × List Char
  | '+' :: rest => (false, rest)
  | '-' :: rest => (true, rest)
  | rest => (false, rest)

/-- Reads what follows the letter of an exponent. -/
def exponentOf (negative : Bool) (significand : Nat) (scale : Int) : Reader Number := fun text =>
  let (down, text) := exponentSign text
  match text with
  | [] => faultBefore .valueEnds []
  | c :: rest =>
    if c.isDigit then
      match exponentDigits (digitValue c) rest with
      | (some exponent, rest) =>
        doubleOf negative significand (if down then scale - exponent else scale + exponent) rest
      | (none, rest) =>
        if significand ≠ 0 ∧ !down then faultBefore .outOfRange rest
        else .ok (zeroOf negative, skipDigits rest)
    else faultAt .badNumber (c :: rest)

def isExponentLetter (c : Char) : Bool := c == 'e' || c == 'E'

/-- Reads an exponent if there is one. -/
def exponentIfAny (negative : Bool) (significand : Nat) (scale : Int) : Reader Number
  | [] => doubleOf negative significand scale []
  | c :: rest =>
    if isExponentLetter c then exponentOf negative significand scale rest
    else doubleOf negative significand scale (c :: rest)

/-- Reads what follows the point. -/
def fractionOf (negative : Bool) (significand : Nat) (scale : Int) : Reader Number
  | [] => faultBefore .valueEnds []
  | c :: rest =>
    if c.isDigit then
      let digits := leadingDigits (c :: rest)
      let (extended, left) := absorb significand digits
      exponentIfAny negative extended (scale - (digits.length - left.length : Nat))
        (skipDigits (c :: rest))
    else faultAt .badNumber (c :: rest)

/-- A whole number, with its sign, as it is if it fits into 64 bits. -/
def wholeNumber (negative : Bool) (significand : Nat) (rest : List Char) :
    Except Failure (Number × List Char) :=
  if !negative then .ok (.integer significand, rest)
  else if 0 < significand ∧ significand ≤ 1 <<< 63 then .ok (.integer (-significand), rest)
  else doubleOf true significand 0 rest

/-- Reads what follows the digits before the point, the last `dropped` of which are not in the
significand. -/
def afterWhole (negative : Bool) (significand dropped : Nat) : Reader Number
  | [] => finish []
  | c :: rest =>
    if c = '.' then fractionOf negative significand dropped rest
    else if isExponentLetter c then exponentOf negative significand dropped rest
    else finish (c :: rest)
where
  finish (rest : List Char) : Except Failure (Number × List Char) :=
    if dropped = 0 then wholeNumber negative significand rest
    else doubleOf negative significand dropped rest

/-- Reads a number whose sign has been taken. -/
def unsignedNumber (negative : Bool) : Reader Number
  | [] => faultBefore .valueEnds []
  | c :: rest =>
    if c = '0' then
      match rest with
      | [] => afterWhole negative 0 0 []
      | d :: rest =>
        if d.isDigit then faultAt .badNumber (d :: rest) else afterWhole negative 0 0 (d :: rest)
    else if c.isDigit then
      let (significand, left) := absorb 0 (leadingDigits (c :: rest))
      afterWhole negative significand left.length (skipDigits (c :: rest))
    else faultAt .badNumber (c :: rest)

end JsonShape
