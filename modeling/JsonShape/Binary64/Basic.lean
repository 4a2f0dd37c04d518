/-!
# Finite doubles, exactly

Every finite double is a whole number of units of `2 ^ -1074`.  A `Magnitude` is such a number in
its one normal form, `digits * 2 ^ shift`, with at most 53 bits of digits and a shift only where the
digits fill all 53 bits; a `Binary64` adds a sign, so that there are two zeros.

* `roundHalfEven` rounds a quotient of natural numbers, a half to the even neighbour.
* `Magnitude.ofUnits?` rounds a quotient of units to a magnitude; it fails on what is too large.
* `Magnitude.mul?` and `Magnitude.div?` are the exact product and quotient, rounded once.
-/

namespace JsonShape

/-- The natural number nearest to `num / den`; of two nearest ones the even one. -/
def roundHalfEven (num den : Nat) : Nat :=
  if den < 2 * (num % den) ∨ (2 * (num % den) = den ∧ num / den % 2 = 1) then num / den + 1
  else num / den

theorem div_le_roundHalfEven (num den : Nat) : num / den ≤ roundHalfEven num den := by
  unfold roundHalfEven
  split <;> omega

theorem roundHalfEven_le (num den : Nat) : roundHalfEven num den ≤ num / den + 1 := by
  unfold roundHalfEven
  split <;> omega

/-- A size that a double can have: `digits * 2 ^ shift` units of `2 ^ -1074`. -/
structure Magnitude where
  digits : Nat
  shift : Nat
  digits_lt : digits < 1 <<< 53
  shift_le : shift ≤ 2045
  normal : shift = 0 ∨ 1 <<< 52 ≤ digits
deriving DecidableEq

namespace Magnitude

/-- The number of units of `2 ^ -1074`. -/
def units (a : Magnitude) : Nat := a.digits <<< a.shift

/-- One, in units. -/
def one : Nat := 1 <<< 1074

def zero : Magnitude := ⟨0, 0, by decide, by decide, .inl rfl⟩

def isZero (a : Magnitude) : Bool := a.digits == 0

/-- The shift at which a whole number of units keeps 53 bits. -/
def shiftOf (whole : Nat) : Nat := Nat.log2 whole - 52

theorem shiftRight_lt (whole : Nat) : whole >>> shiftOf whole < 1 <<< 53 := by
  rw [Nat.shiftRight_eq_div_pow, Nat.one_shiftLeft, Nat.div_lt_iff_lt_mul (Nat.two_pow_pos _),
    ← Nat.pow_add]
  have h : whole < 2 ^ (Nat.log2 whole + 1) := Nat.lt_log2_self
  exact Nat.lt_of_lt_of_le h (Nat.pow_le_pow_right (by decide) (by unfold shiftOf; omega))

theorem le_shiftRight {whole : Nat} (h : shiftOf whole ≠ 0) :
    1 <<< 52 ≤ whole >>> shiftOf whole := by
  rw [Nat.shiftRight_eq_div_pow, Nat.one_shiftLeft, Nat.le_div_iff_mul_le (Nat.two_pow_pos _),
    ← Nat.pow_add]
  have hlog : 52 + shiftOf whole = Nat.log2 whole := by unfold shiftOf at *; omega
  rw [hlog]
  refine Nat.log2_self_le ?_
  rintro rfl
  simp [shiftOf] at h

theorem div_shiftLeft (num den shift : Nat) : num / den <<< shift = (num / den) >>> shift := by
  rw [Nat.shiftLeft_eq, ← Nat.div_div_eq_div_mul, Nat.shiftRight_eq_div_pow]

/-- `num / den` rounded at the shift that keeps 53 bits. -/
def roundedDigits (num den : Nat) : Nat := roundHalfEven num (den <<< shiftOf (num / den))

theorem roundedDigits_le (num den : Nat) : roundedDigits num den ≤ 1 <<< 53 := by
  have h := roundHalfEven_le num (den <<< shiftOf (num / den))
  rw [div_shiftLeft] at h
  exact Nat.le_trans h (shiftRight_lt (num / den))

theorem le_roundedDigits (num den : Nat) :
    shiftOf (num / den) = 0 ∨ 1 <<< 52 ≤ roundedDigits num den := by
  by_cases hs : shiftOf (num / den) = 0
  · exact .inl hs
  · have h := div_le_roundHalfEven num (den <<< shiftOf (num / den))
    rw [div_shiftLeft] at h
    exact .inr (Nat.le_trans (le_shiftRight hs) h)

/-- `num / den` units, rounded to 53 bits; `none` if that is more than a double can hold. -/
def ofUnits? (num den : Nat) : Option Magnitude :=
  if full : roundedDigits num den = 1 <<< 53 then
    if room : shiftOf (num / den) + 1 ≤ 2045 then
      some ⟨1 <<< 52, shiftOf (num / den) + 1, by decide, room, .inr (Nat.le_refl _)⟩
    else none
  else
    if room : shiftOf (num / den) ≤ 2045 then
      some ⟨roundedDigits num den, shiftOf (num / den),
        Nat.lt_of_le_of_ne (roundedDigits_le num den) full, room, le_roundedDigits num den⟩
    else none

/-- The double nearest to a natural number. -/
def ofNat? (n : Nat) : Option Magnitude := ofUnits? (n * one) 1

/-- The product, rounded. -/
def mul? (a b : Magnitude) : Option Magnitude := ofUnits? (a.units * b.units) one

/-- The quotient, rounded. -/
def div? (a b : Magnitude) : Option Magnitude := ofUnits? (a.units * one) b.units

end Magnitude

/-- A finite double. -/
structure Binary64 where
  negative : Bool
  magnitude : Magnitude
deriving DecidableEq

end JsonShape
