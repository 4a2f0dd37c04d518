/-!
# Whole numbers in digits

A text of decimal digits, read as a number of at most 64 bits.
-/

namespace JsonShape

/-- The number below `2 ^ 64` that some decimal digits write, at least one. -/
def wordOfDigits? (digits : List Char) : Option Nat :=
  if digits.isEmpty || !digits.all Char.isDigit then none
  else
    let n := digits.foldl (fun n c => n * 10 + (c.toNat - '0'.toNat)) 0
    if n < 1 <<< 64 then some n else none

end JsonShape
