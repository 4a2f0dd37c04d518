import JsonShape.Json.Fault

/-!
# Reading JSON strings

`stringBody` reads what follows an opening quotation mark.  A code point beyond the basic plane may be
escaped as a pair of surrogates; a surrogate without its partner is a fault.
-/

namespace JsonShape

/-- The value of a hexadecimal digit. -/
def hexDigit (c : Char) : Option Nat :=
  if c.isDigit then some (c.toNat - '0'.toNat)
  else if 'a' ≤ c ∧ c ≤ 'f' then some (c.toNat - 'a'.toNat + 10)
  else if 'A' ≤ c ∧ c ≤ 'F' then some (c.toNat - 'A'.toNat + 10)
  else none

/-- The value of four hexadecimal digits. -/
def hexUnit (a b c d : Char) : Option Nat := do
  let a ← hexDigit a
  let b ← hexDigit b
  let c ← hexDigit c
  let d ← hexDigit d
  return ((a * 16 + b) * 16 + c) * 16 + d

/-- The fault of an escape that lacks four hexadecimal digits: the four bytes are looked at together. -/
def badUnit (rest : List Char) : Failure :=
  let bytes := (rest.take 4).foldl (fun bytes c => bytes + c.utf8Size) 0
  ⟨if bytes < 4 then .stringEnds else .badEscape, rest, 4, []⟩

/-- The fault of a text that does not go on with the second escape of a pair. -/
def badPartner : List Char → Failure
  | [] => ⟨.stringEnds, [], 0, []⟩
  | '\\' :: [] => ⟨.stringEnds, [], 0, []⟩
  | '\\' :: 'u' :: rest => badUnit rest
  | '\\' :: rest => ⟨.escapeEnds, rest, 1, []⟩
  | rest => ⟨.escapeEnds, rest, 1, []⟩

/-- The character that a letter after a backslash stands for. -/
def shortEscape : Char → Option Char
  | '"' => some '"'
  | '\\' => some '\\'
  | '/' => some '/'
  | 'b' => some '\x08'
  | 'f' => some '\x0c'
  | 'n' => some '\n'
  | 'r' => some '\r'
  | 't' => some '\t'
  | _ => none

def isLeadingSurrogate (unit : Nat) : Bool := 0xD800 ≤ unit && unit ≤ 0xDBFF

def isTrailingSurrogate (unit : Nat) : Bool := 0xDC00 ≤ unit && unit ≤ 0xDFFF

/-- The code point of a pair of surrogates. -/
def pairedCode (leading trailing : Nat) : Char :=
  Char.ofNat (0x10000 + (leading - 0xD800) * 0x400 + (trailing - 0xDC00))

/-- Puts a character in front of what was read. -/
def prepend (c : Char) (result : Except Failure (List Char × List Char)) :
    Except Failure (List Char × List Char) :=
  result.map fun (body, rest) => (c :: body, rest)

/-- The characters up to the closing quotation mark, and the text after it. -/
def stringBody : Reader (List Char)
  | [] => faultBefore .stringEnds []
  | c :: rest =>
    if c = '"' then .ok ([], rest)
    else if c = '\\' then
      match rest with
      | [] => faultBefore .stringEnds []
      | 'u' :: a :: b :: x :: y :: rest =>
        match hexUnit a b x y with
        | none => .error (badUnit (a :: b :: x :: y :: rest))
        | some unit =>
          if isTrailingSurrogate unit then faultBefore .loneSurrogate rest
          else if isLeadingSurrogate unit then
            match rest with
            | '\\' :: 'u' :: a :: b :: x :: y :: rest =>
              match hexUnit a b x y with
              | none => .error (badUnit (a :: b :: x :: y :: rest))
              | some partner =>
                if isTrailingSurrogate partner then
                  prepend (pairedCode unit partner) (stringBody rest)
                else faultBefore .loneSurrogate rest
            | rest => .error (badPartner rest)
          else prepend (Char.ofNat unit) (stringBody rest)
      | 'u' :: rest => .error (badUnit rest)
      | letter :: rest =>
        match shortEscape letter with
        | some escaped => prepend escaped (stringBody rest)
        | none => faultAt .badEscape (letter :: rest)
    else if c.toNat < 0x20 then faultAt .controlCharacter (c :: rest)
    else prepend c (stringBody rest)

/-- The string whose opening quotation mark has been taken. -/
def stringAfterQuote : Reader String := fun text =>
  (stringBody text).map fun (body, rest) => (String.ofList body, rest)

end JsonShape
