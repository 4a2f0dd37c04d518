import JsonShape.Mismatch.Reader
import JsonShape.Validation.Walk

/-!
# Settings of a validation

The one setting is the cap on the depth of schema that is followed.  Settings are read from an object,
whose other members are passed over, or from an array of at most one element.
-/

namespace JsonShape

structure Settings where
  cap : Nat := Schema.defaultCap
deriving DecidableEq

namespace Settings

/-- Reads a whole number from 0 to below `2 ^ 64`. -/
def count : Reader Nat := fun text =>
  match skipBlanks text with
  | [] => faultAt .valueEnds []
  | c :: rest =>
    if c = '-' ∨ c.isDigit then do
      let (n, rest) ← if c = '-' then unsignedNumber true rest else unsignedNumber false (c :: rest)
      match n with
      | .integer n =>
        if n < 0 then faultBefore (.invalidValue n "usize") rest else return (n.toNat, rest)
      | .double x => faultBefore (.invalidType (.number (.double x)) "usize") rest
    else .error (mistyped "usize" (c :: rest))

/-- The value of a member: the cap under its name, and nothing under others. -/
def member (before : List String) (name : String) : Reader (Option Nat) := fun text =>
  if name = "max_depth" then
    if name ∈ before then faultBefore (.duplicateField name) (afterObject text)
    else do
      let (cap, rest) ← count (← colon text)
      return (some cap, rest)
  else do return (none, ← Skim.value (← colon text))

def read : Reader Settings := fun text =>
  match skipBlanks text with
  | '[' :: rest => do
    match ← nextItem true rest with
    | .finish rest => return (⟨Schema.defaultCap⟩, ← listEnd rest)
    | .entry rest =>
      let (cap, rest) ← count rest
      return (⟨cap⟩, ← listEnd rest)
  | '\x7b' :: rest => do
    let (entries, rest) ← members member rest
    return (⟨(entries.findSome? Prod.snd).getD Schema.defaultCap⟩, rest)
  | text => .error (mistyped "struct ValidatorConfig" text)

/-- Reads the text of settings. -/
def ofText (text : String) : Except Misread Settings := readWhole read text

def toJson (settings : Settings) : Json :=
  .object [("max_depth", .number (.integer settings.cap))]

end Settings

end JsonShape
