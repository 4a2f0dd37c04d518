import JsonShape.Json.NumberReader
import Mathlib.Data.Nat.Log
import Mathlib.Tactic.Linarith
import Mathlib.Tactic.Ring

/-!
# How far rounding goes

A quotient below the largest double rounds to a double (`ofUnits?_isSome`), which is off by at most one part in
`2 ^ 52` and one unit (`roundedUnits_le`, `le_roundedUnits`).  So a significand that fits into 64 bits can be
divided by any power of ten (`exists_dividedByTens`), and multiplied by one as long as the product stays a few
units in the last place below the largest double (`exists_scaledByTens`).
-/

namespace JsonShape.Magnitude

/-- The units of the largest double. -/
def maxUnits : Nat := ((1 <<< 53) - 1) <<< 2045

/-- The units that a quotient of units is rounded to. -/
def roundedUnits (num den : Nat) : Nat := roundedDigits num den <<< shiftOf (num / den)

theorem units_of_ofUnits? {num den : Nat} {a : Magnitude} (h : ofUnits? num den = some a) :
    a.units = roundedUnits num den := by
  unfold ofUnits? at h
  split at h
  · rename_i hfull
    split at h
    · cases h
      rw [roundedUnits, hfull, units]
      simp only [Nat.shiftLeft_eq]
      ring
    · cases h
  · split at h
    · cases h
      rfl
    · cases h

theorem roundedDigits_le_succ (num den : Nat) :
    roundedDigits num den ≤ num / den / 2 ^ shiftOf (num / den) + 1 := by
  have h := roundHalfEven_le num (den <<< shiftOf (num / den))
  rwa [div_shiftLeft, Nat.shiftRight_eq_div_pow] at h

/-- A number below some multiple of a power of two keeps 53 bits with no larger a shift. -/
theorem shiftOf_le {whole digits shift : Nat} (h : whole < digits * 2 ^ shift) (hd : digits ≤ 2 ^ 53) :
    shiftOf whole ≤ shift := by
  unfold shiftOf
  by_cases hz : whole = 0
  · simp [hz]
  · have hlarge : whole < 2 ^ (53 + shift) := by
      rw [Nat.pow_add]
      exact lt_of_lt_of_le h (Nat.mul_le_mul_right _ hd)
    have hlog := (Nat.log2_lt hz).mpr hlarge
    omega

theorem ofUnits?_isSome {num den : Nat} (h : num / den < maxUnits) : ∃ a, ofUnits? num den = some a := by
  have hdigits := roundedDigits_le_succ num den
  obtain ⟨top, last, htop, hlast, hmax⟩ : ∃ top last, top + 1 = 1 <<< 53 ∧ last = 2045 ∧
      maxUnits = top <<< last := ⟨(1 <<< 53) - 1, 2045, rfl, rfl, rfl⟩
  rw [hmax, Nat.shiftLeft_eq] at h
  have hshift : shiftOf (num / den) ≤ last := shiftOf_le h (by omega)
  have hlow := (Nat.div_lt_iff_lt_mul (Nat.two_pow_pos _)).mpr h
  unfold ofUnits?
  split
  · rename_i hfull
    have hroom : shiftOf (num / den) ≠ last := by
      intro he
      rw [he] at hdigits
      omega
    rw [dif_pos (by omega)]
    exact ⟨_, rfl⟩
  · rw [dif_pos (by omega)]
    exact ⟨_, rfl⟩

/-- The last digit that is kept is worth at most one part in `2 ^ 52`, or one unit. -/
theorem two_pow_shiftOf_le (whole : Nat) : 2 ^ shiftOf whole ≤ whole / 2 ^ 52 + 1 := by
  by_cases hs : shiftOf whole = 0
  · rw [hs]
    omega
  · have hlog : 2 ^ Nat.log2 whole ≤ whole := by
      refine Nat.log2_self_le ?_
      rintro rfl
      exact hs rfl
    have hsplit : Nat.log2 whole = shiftOf whole + 52 := by unfold shiftOf at *; omega
    rw [hsplit, Nat.pow_add] at hlog
    have := (Nat.le_div_iff_mul_le (Nat.two_pow_pos 52)).mpr hlog
    omega

theorem roundedUnits_le (num den : Nat) :
    roundedUnits num den ≤ num / den + num / den / 2 ^ 52 + 1 := by
  have hdigits := roundedDigits_le_succ num den
  have hlast := two_pow_shiftOf_le (num / den)
  rw [roundedUnits, Nat.shiftLeft_eq]
  generalize num / den = whole at *
  calc roundedDigits num den * 2 ^ shiftOf whole
      ≤ (whole / 2 ^ shiftOf whole + 1) * 2 ^ shiftOf whole := Nat.mul_le_mul_right _ hdigits
    _ = whole / 2 ^ shiftOf whole * 2 ^ shiftOf whole + 2 ^ shiftOf whole := by rw [Nat.add_mul, Nat.one_mul]
    _ ≤ whole + whole / 2 ^ 52 + 1 := by
      have := Nat.div_mul_le_self whole (2 ^ shiftOf whole)
      omega

theorem le_roundedUnits (num den : Nat) : num / den ≤ roundedUnits num den + num / den / 2 ^ 52 := by
  have hdigits := div_le_roundHalfEven num (den <<< shiftOf (num / den))
  rw [div_shiftLeft, Nat.shiftRight_eq_div_pow] at hdigits
  have hlast := two_pow_shiftOf_le (num / den)
  rw [roundedUnits, Nat.shiftLeft_eq, roundedDigits]
  generalize roundHalfEven num (den <<< shiftOf (num / den)) = digits at *
  generalize num / den = whole at *
  have hfloor := Nat.lt_div_mul_add (b := 2 ^ shiftOf whole) (a := whole) (Nat.two_pow_pos _)
  have hrounded := Nat.mul_le_mul_right (2 ^ shiftOf whole) hdigits
  omega

/-! ## Whole numbers -/

theorem ofNat?_isSome {n : Nat} (h : n < 1 <<< 1023) : ∃ a, ofNat? n = some a := by
  refine ofUnits?_isSome ?_
  rw [Nat.div_one, one]
  calc n * (1 <<< 1074) < (1 <<< 1023) * (1 <<< 1074) :=
        Nat.mul_lt_mul_of_pos_right h (by decide)
    _ ≤ maxUnits := by decide

/-- The powers of ten up to `10 ^ 308` have doubles, which are more than half of them. -/
theorem tenTo?_isSome {exponent : Nat} (h : exponent ≤ 308) :
    ∃ a, tenTo? exponent = some a ∧ 10 ^ exponent * one ≤ 2 * a.units := by
  have hsmall : Nat.pow 10 exponent * one / 1 < maxUnits := by
    have hpow : 10 ^ exponent ≤ 10 ^ 308 := by gcongr; decide
    rw [Nat.div_one]
    show 10 ^ exponent * one < maxUnits
    calc 10 ^ exponent * one ≤ 10 ^ 308 * one := Nat.mul_le_mul_right _ hpow
      _ < maxUnits := by decide +kernel
  obtain ⟨a, ha⟩ := ofUnits?_isSome hsmall
  have hunits := units_of_ofUnits? ha
  have hbelow := le_roundedUnits (Nat.pow 10 exponent * one) 1
  rw [Nat.div_one, ← hunits] at hbelow
  refine ⟨a, ha, ?_⟩
  show Nat.pow 10 exponent * one ≤ _
  generalize Nat.pow 10 exponent * one = whole at *
  omega

/-! ## Powers of ten -/

/-- A bound that no significand reaches, far below the largest double. -/
def farUnits : Nat := 1 <<< 1200

/-- Dividing by a power of ten leads no further than twice as far, and by the largest one not even there. -/
theorem exists_div {a t : Magnitude} {exponent : Nat} (ha : a.units ≤ farUnits)
    (ht : 10 ^ exponent * one ≤ 2 * t.units) : ∃ b, a.div? t = some b ∧
      b.units ≤ 2 * (2 * a.units / 10 ^ exponent) + 1 := by
  have hone : 0 < one := by decide
  have hten : 0 < 10 ^ exponent := Nat.pow_pos (by decide)
  have hpositive : 0 < t.units := by
    have := Nat.mul_pos hten hone
    omega
  -- `t` may have been rounded to a little less than the power, but not to less than half of it
  have hquotient : a.units * one / t.units ≤ 2 * a.units / 10 ^ exponent := by
    rw [Nat.le_div_iff_mul_le hten]
    have hdiv := Nat.div_mul_le_self (a.units * one) t.units
    refine Nat.le_of_mul_le_mul_right ?_ hone
    calc a.units * one / t.units * 10 ^ exponent * one
        = a.units * one / t.units * (10 ^ exponent * one) := Nat.mul_assoc ..
      _ ≤ a.units * one / t.units * (2 * t.units) := Nat.mul_le_mul_left _ ht
      _ = 2 * (a.units * one / t.units * t.units) := by ring
      _ ≤ 2 * (a.units * one) := Nat.mul_le_mul_left _ hdiv
      _ = 2 * a.units * one := by ring
  -- even undivided, twice the far bound is a finite double
  have hsmall : a.units * one / t.units < maxUnits := by
    have hself := Nat.div_le_self (2 * a.units) (10 ^ exponent)
    have hfar : 2 * farUnits < maxUnits := by decide +kernel
    omega
  obtain ⟨b, hb⟩ := ofUnits?_isSome hsmall
  have hrounded := roundedUnits_le (a.units * one) t.units
  rw [← units_of_ofUnits? hb] at hrounded
  exact ⟨b, hb, by omega⟩

/-- What is divided by a larger power of ten than one stays as far below. -/
theorem exists_div_far {a t : Magnitude} {exponent : Nat} (ha : a.units ≤ farUnits) (he : exponent ≠ 0)
    (ht : 10 ^ exponent * one ≤ 2 * t.units) : ∃ b, a.div? t = some b ∧ b.units ≤ farUnits := by
  obtain ⟨b, hb, hless⟩ := exists_div ha ht
  have hten : 10 ≤ 10 ^ exponent := Nat.le_self_pow he 10
  have hquotient : 2 * a.units / 10 ^ exponent ≤ 2 * a.units / 10 := Nat.div_le_div_left hten (by decide)
  have hroom : 2 ≤ farUnits := by decide
  exact ⟨b, hb, by omega⟩

theorem exists_dividedByTens {a : Magnitude} (h : a.units ≤ farUnits) (exponent : Nat) :
    ∃ b, a.dividedByTens exponent = some b := by
  fun_induction dividedByTens a exponent with
  | case1 a exponent hsmall =>
    obtain ⟨t, ht, hunits⟩ := tenTo?_isSome hsmall
    obtain ⟨b, hb, -⟩ := exists_div h hunits
    exact ⟨b, Option.bind_eq_some_iff.mpr ⟨t, ht, hb⟩⟩
  | case2 a exponent hlarge hz => exact ⟨a, rfl⟩
  | case3 a exponent hlarge hz ih =>
    obtain ⟨t, ht, hunits⟩ := tenTo?_isSome (Nat.le_refl 308)
    obtain ⟨b, hb, hfar⟩ := exists_div_far h (by decide) hunits
    obtain ⟨c, hc⟩ := ih b hfar
    exact ⟨c, Option.bind_eq_some_iff.mpr ⟨t, ht, Option.bind_eq_some_iff.mpr ⟨b, hb, hc⟩⟩⟩

theorem exists_scaledByTens_of_neg {significand : Nat} {exponent : Int} (hs : significand < 1 <<< 64)
    (he : exponent < 0) : ∃ a, (ofNat? significand).bind (·.scaledByTens exponent) = some a := by
  obtain ⟨a, ha⟩ := ofNat?_isSome (lt_of_lt_of_le hs (by decide))
  have hunits := roundedUnits_le (significand * one) 1
  rw [← units_of_ofUnits? ha, Nat.div_one] at hunits
  have hfar : a.units ≤ farUnits := by
    have hlarge : significand * one ≤ (1 <<< 64) * one := Nat.mul_le_mul_right _ (Nat.le_of_lt hs)
    have hroom : (1 <<< 64) * one * 2 + 1 ≤ farUnits := by decide +kernel
    generalize significand * one = whole at *
    omega
  obtain ⟨b, hb⟩ := exists_dividedByTens hfar exponent.natAbs
  refine ⟨b, Option.bind_eq_some_iff.mpr ⟨a, ha, ?_⟩⟩
  rw [scaledByTens, if_pos he]
  exact hb

/-- Two factors that are rounded up lead to a product that is hardly larger. -/
theorem mul_le_of_rounded {s t u v unit part : Nat} (hs : 1 ≤ s) (ht : 1 ≤ t)
    (hu : u ≤ s * (unit * (part + 1)) + 1) (hv : v ≤ t * (unit * (part + 1)) + 1)
    (hunit : 2 * (unit * (part + 1)) + 1 ≤ unit * unit) :
    u * v ≤ s * t * (unit * unit * ((part + 1) * (part + 1) + 1)) := by
  have hsum : s + t ≤ 2 * (s * t) := by nlinarith
  have hone : 1 ≤ s * t := Nat.mul_le_mul hs ht
  calc u * v ≤ (s * (unit * (part + 1)) + 1) * (t * (unit * (part + 1)) + 1) := Nat.mul_le_mul hu hv
    _ = s * t * ((unit * (part + 1)) * (unit * (part + 1))) + (s + t) * (unit * (part + 1)) + 1 := by ring
    _ ≤ s * t * ((unit * (part + 1)) * (unit * (part + 1))) + 2 * (s * t) * (unit * (part + 1)) + s * t :=
      Nat.add_le_add (Nat.add_le_add_left (Nat.mul_le_mul_right _ hsum) _) hone
    _ = s * t * ((unit * (part + 1)) * (unit * (part + 1)) + (2 * (unit * (part + 1)) + 1)) := by ring
    _ ≤ s * t * ((unit * (part + 1)) * (unit * (part + 1)) + unit * unit) :=
      Nat.mul_le_mul_left _ (Nat.add_le_add_left hunit _)
    _ = s * t * (unit * unit * ((part + 1) * (part + 1) + 1)) := by ring

/-- The largest product whose factors can be rounded without going beyond the largest double. -/
def safeProduct : Nat := ((1 <<< 54) - 11) <<< 970

/-- A significand is scaled up if the product of the rounded factors stays below the largest double. -/
theorem exists_scaledByTens_of_rounded {significand exponent : Nat} (hs : significand * one < maxUnits)
    (he : exponent ≤ 308)
    (h : roundedUnits (significand * one) 1 * roundedUnits (Nat.pow 10 exponent * one) 1 / one < maxUnits) :
    ∃ a, (ofNat? significand).bind (·.scaledByTens exponent) = some a := by
  have hfits : significand * one / 1 < maxUnits := by rwa [Nat.div_one]
  obtain ⟨a, ha⟩ := ofUnits?_isSome hfits
  obtain ⟨t, ht, -⟩ := tenTo?_isSome he
  rw [← units_of_ofUnits? ha, ← units_of_ofUnits? ht] at h
  obtain ⟨b, hb⟩ := ofUnits?_isSome h
  refine ⟨b, Option.bind_eq_some_iff.mpr ⟨a, ha, ?_⟩⟩
  rw [scaledByTens, if_neg (by omega), if_pos (by omega), Int.toNat_natCast]
  exact Option.bind_eq_some_iff.mpr ⟨t, ht, hb⟩

theorem exponent_le_of_safe {significand exponent : Nat} (hs : 1 ≤ significand)
    (h : significand * 10 ^ exponent ≤ safeProduct) : exponent ≤ 308 := by
  have hpower : 10 ^ exponent ≤ safeProduct := le_trans (Nat.le_mul_of_pos_left _ hs) h
  by_contra hn
  have hpow : 10 ^ 309 ≤ 10 ^ exponent := by gcongr <;> omega
  have hlarge : safeProduct < 10 ^ 309 := by decide +kernel
  omega

theorem exists_scaledByTens {significand exponent : Nat} (hs : 1 ≤ significand)
    (h : significand * 10 ^ exponent ≤ safeProduct) :
    ∃ a, (ofNat? significand).bind (·.scaledByTens exponent) = some a := by
  have hten : 1 ≤ 10 ^ exponent := Nat.pow_pos (by decide)
  have hsmall : significand ≤ safeProduct := le_trans (Nat.le_mul_of_pos_right _ hten) h
  have hfits : significand * one < maxUnits :=
    calc significand * one ≤ safeProduct * one := Nat.mul_le_mul_right _ hsmall
      _ < maxUnits := by decide +kernel
  -- each factor is rounded up by less than one part in 2^52, and the safe product leaves room for both
  have hrounded : ∀ n, roundedUnits (n * one) 1 ≤ n * ((1 <<< 1022) * (2 ^ 52 + 1)) + 1 := by
    intro n
    have hunits := roundedUnits_le (n * one) 1
    have hone : one = (1 <<< 1022) * 2 ^ 52 := by decide +kernel
    rw [Nat.div_one, hone, ← Nat.mul_assoc, Nat.mul_div_cancel _ (Nat.two_pow_pos 52)] at hunits
    rw [hone, ← Nat.mul_assoc]
    exact hunits.trans (Nat.le_of_eq (by ring))
  have hproduct := mul_le_of_rounded hs hten (hrounded significand) (hrounded (10 ^ exponent))
    (by decide +kernel)
  refine exists_scaledByTens_of_rounded hfits (exponent_le_of_safe hs h) ?_
  rw [Nat.div_lt_iff_lt_mul (by decide)]
  calc roundedUnits (significand * one) 1 * roundedUnits (10 ^ exponent * one) 1
      ≤ safeProduct * ((1 <<< 1022) * (1 <<< 1022) * ((2 ^ 52 + 1) * (2 ^ 52 + 1) + 1)) :=
        hproduct.trans (Nat.mul_le_mul_right _ h)
    _ < maxUnits * one := by decide +kernel

end JsonShape.Magnitude
