import JsonShape.Binary64.Basic

/-!
# The shortest decimal of a double

The reals that round to a double form an interval around it, ends included when its digits are even.
`Magnitude.shortest` is the decimal with the fewest digits in that interval; of two with equally many
digits it is the nearer one, and the even one of two equally near.

A grid of decimals with a given number of digits has a point in the interval as soon as one of the
two grid points next to the double lies in it, so only those two are tried, for one digit up to the
seventeen that always suffice.
-/

namespace JsonShape

/-- `digits * 10 ^ exponent`. -/
structure Decimal where
  digits : Nat
  exponent : Int
deriving DecidableEq

namespace Decimal

/-- The numerator of `10 ^ exponent`. -/
def tensAbove (exponent : Int) : Nat := Nat.pow 10 exponent.toNat

/-- The denominator of `10 ^ exponent`. -/
def tensBelow (exponent : Int) : Nat := Nat.pow 10 (-exponent).toNat

/-- `-1`, `0` or `1` as the decimal is below, at or above `quarters / 4` units. -/
def compareQuarters (d : Decimal) (quarters : Nat) : Ordering :=
  compare (d.digits * tensAbove d.exponent * (4 * Magnitude.one)) (quarters * tensBelow d.exponent)

/-- Its distance from `quarters / 4` units, for comparison on one grid. -/
def distance (d : Decimal) (quarters : Nat) : Nat :=
  let a := d.digits * tensAbove d.exponent * (4 * Magnitude.one)
  let b := quarters * tensBelow d.exponent
  (a - b) + (b - a)

/-- Takes the zeros at the end out of the digits. -/
def trim (d : Decimal) : Decimal :=
  if d.digits ≠ 0 ∧ d.digits % 10 = 0 then trim ⟨d.digits / 10, d.exponent + 1⟩ else d
termination_by d.digits
decreasing_by omega

end Decimal

namespace Magnitude

/-- Four times the units. -/
def quarters (a : Magnitude) : Nat := 4 * a.units

/-- The lower end of the interval, half way to the next smaller double; below a power of two the
doubles lie twice as dense. -/
def lowerQuarters (a : Magnitude) : Nat :=
  if a.digits = 1 <<< 52 ∧ a.shift ≠ 0 then a.quarters - (1 <<< a.shift)
  else a.quarters - (2 <<< a.shift)

/-- The upper end of the interval, half way to the next larger double. -/
def upperQuarters (a : Magnitude) : Nat := a.quarters + (2 <<< a.shift)

/-- Whether a decimal rounds to the double. -/
def admits (a : Magnitude) (d : Decimal) : Bool :=
  match d.compareQuarters a.lowerQuarters, d.compareQuarters a.upperQuarters with
  | .gt, .lt => true
  | .eq, _ => a.digits % 2 == 0
  | _, .eq => a.digits % 2 == 0
  | _, _ => false

/-- The exponent of the leading decimal digit of a magnitude other than zero. -/
def leading (a : Magnitude) : Int :=
  if one ≤ a.units then ((Nat.toDigits 10 (a.units / one)).length : Int) - 1
  else -((Nat.toDigits 10 ((one - 1) / a.units)).length : Int)

/-- The grid point at or below the magnitude, for a grid of step `10 ^ exponent`. -/
def floorOn (a : Magnitude) (exponent : Int) : Decimal :=
  ⟨a.units * Decimal.tensBelow exponent / (one * Decimal.tensAbove exponent), exponent⟩

/-- The better of the two grid points around the magnitude that round to it. -/
def bestOn (a : Magnitude) (exponent : Int) : Option Decimal :=
  let below := a.floorOn exponent
  let above : Decimal := ⟨below.digits + 1, exponent⟩
  match a.admits below, a.admits above with
  | false, false => none
  | true, false => some below
  | false, true => some above
  | true, true =>
    match compare (below.distance a.quarters) (above.distance a.quarters) with
    | .lt => some below
    | .gt => some above
    | .eq => some (if below.digits % 2 = 0 then below else above)

/-- The shortest decimal that rounds to a magnitude. -/
def shortest (a : Magnitude) : Decimal :=
  if a.isZero then ⟨0, 0⟩
  else
    let leading := a.leading
    match (List.range 17).findSome? fun (n : Nat) => a.bestOn (leading - (n : Int)) with
    | some d => d.trim
    | none => a.floorOn (leading - 16)

end Magnitude

end JsonShape
