import JsonShape.Binary64.Shortest
import JsonShape.Proofs.Binary64.Rounding

/-!
# The shortest decimal, from above

The shortest decimal of a magnitude has between one and seventeen digits, and lies at most half way to the next
larger double (`shortest_bounds`).  So a reader that takes its digits for a significand and scales them by its
power of ten does not go beyond the largest double (`exists_scaled_shortest`): for all but the five largest
doubles because there is room for the two roundings, and for these five by looking at their digits.
-/

namespace JsonShape

namespace Decimal

/-- The decimal is at most `quarters / 4` units. -/
def AtMost (d : Decimal) (quarters : Nat) : Prop :=
  d.digits * tensAbove d.exponent * (4 * Magnitude.one) ≤ quarters * tensBelow d.exponent

theorem atMost_iff {d : Decimal} {quarters : Nat} : d.AtMost quarters ↔ d.compareQuarters quarters ≠ .gt := by
  unfold AtMost compareQuarters
  generalize d.digits * tensAbove d.exponent * (4 * Magnitude.one) = decimal
  generalize quarters * tensBelow d.exponent = bound
  exact Nat.compare_ne_gt.symm

theorem tensAbove_pos (exponent : Int) : 0 < tensAbove exponent := Nat.pow_pos (by decide)

theorem tensBelow_pos (exponent : Int) : 0 < tensBelow exponent := Nat.pow_pos (by decide)

theorem tens_natCast (n : Nat) : tensAbove n = 10 ^ n ∧ tensBelow n = 1 := by
  simp [tensAbove, tensBelow]

theorem tens_neg (n : Nat) : tensAbove (-n) = 1 ∧ tensBelow (-n) = 10 ^ n := by
  simp [tensAbove, tensBelow]

/-- The powers of ten of two exponents that are so far apart. -/
theorem tens_sub (exponent : Int) (n : Nat) : tensAbove exponent * tensBelow (exponent - n) =
    10 ^ n * (tensAbove (exponent - n) * tensBelow exponent) := by
  show 10 ^ exponent.toNat * 10 ^ (-(exponent - n)).toNat =
    10 ^ n * (10 ^ (exponent - n).toNat * 10 ^ (-exponent).toNat)
  rw [← Nat.pow_add, ← Nat.pow_add, ← Nat.pow_add]
  congr 1
  omega

theorem trim_bounds {d : Decimal} {quarters : Nat} (hd : d.digits ≠ 0) (hq : d.AtMost quarters) :
    d.trim.digits ≠ 0 ∧ d.trim.digits ≤ d.digits ∧ d.exponent ≤ d.trim.exponent ∧
      d.trim.AtMost quarters := by
  fun_induction trim d with
  | case1 d h ih =>
    -- a zero that is dropped moves into the exponent, and the value stays
    have hless : (⟨d.digits / 10, d.exponent + 1⟩ : Decimal).AtMost quarters := by
      have htens := tens_sub (d.exponent + 1) 1
      have hshift : d.exponent + 1 - (1 : Nat) = d.exponent := by omega
      have hdigits : d.digits = d.digits / 10 * 10 := by omega
      rw [hshift, pow_one] at htens
      unfold AtMost at hq ⊢
      refine Nat.le_of_mul_le_mul_right ?_ (tensBelow_pos d.exponent)
      calc d.digits / 10 * tensAbove (d.exponent + 1) * (4 * Magnitude.one) * tensBelow d.exponent
          = d.digits / 10 * (tensAbove (d.exponent + 1) * tensBelow d.exponent) *
              (4 * Magnitude.one) := by ring
        _ = d.digits / 10 * 10 * tensAbove d.exponent * (4 * Magnitude.one) *
              tensBelow (d.exponent + 1) := by rw [htens]; ring
        _ = d.digits * tensAbove d.exponent * (4 * Magnitude.one) * tensBelow (d.exponent + 1) := by
          rw [← hdigits]
        _ ≤ quarters * tensBelow d.exponent * tensBelow (d.exponent + 1) := Nat.mul_le_mul_right _ hq
        _ = quarters * tensBelow (d.exponent + 1) * tensBelow d.exponent := by ring
    have hten : d.digits / 10 ≠ 0 := by omega
    obtain ⟨hne, hle, hexponent, hat⟩ := ih hten hless
    exact ⟨hne, hle.trans (Nat.div_le_self _ _), (Int.le_of_lt (Int.lt_succ _)).trans hexponent, hat⟩
  | case2 d h => exact ⟨hd, le_rfl, le_rfl, hq⟩

end Decimal

namespace Magnitude

open Decimal

/-! ## The leading digit -/

/-- A number has the digits of its decimal places. -/
theorem exists_places (n : Nat) : ∃ places, (Nat.toDigits 10 n).length = places + 1 :=
  Nat.exists_eq_succ_of_ne_zero (Nat.pos_iff_ne_zero.mp Nat.length_toDigits_pos)

theorem pow_places {n places : Nat} (hn : 1 ≤ n) (h : (Nat.toDigits 10 n).length = places + 1) :
    10 ^ places ≤ n ∧ n < 10 ^ (places + 1) := by
  constructor
  · cases places with
    | zero => exact hn
    | succ fewer =>
      by_contra hsmall
      have := (Nat.length_toDigits_le_iff (by decide) (Nat.succ_pos fewer)).mpr (Nat.not_le.mp hsmall)
      omega
  · exact (Nat.length_toDigits_le_iff (by decide) (Nat.succ_pos places)).mp (Nat.le_of_eq h)

theorem units_pos {a : Magnitude} (h : a.isZero = false) : 0 < a.units := by
  have hdigits : a.digits ≠ 0 := by simpa [isZero] using h
  rw [units, Nat.shiftLeft_eq]
  exact Nat.mul_pos (Nat.pos_of_ne_zero hdigits) (Nat.two_pow_pos _)

/-- A magnitude lies between the powers of ten of its leading digit and of the one before it. -/
theorem leading_bounds {a : Magnitude} (h : 0 < a.units) :
    one * tensAbove a.leading ≤ a.units * tensBelow a.leading ∧
      a.units * tensBelow (a.leading + 1) < one * tensAbove (a.leading + 1) := by
  rw [leading]
  -- from one on the whole part has the leading digit, below one the reciprocal tells the place
  by_cases hlarge : one ≤ a.units
  · have hwhole : 1 ≤ a.units / one := (Nat.le_div_iff_mul_le (by decide)).mpr (by omega)
    obtain ⟨places, hplaces⟩ := exists_places (a.units / one)
    obtain ⟨hbelow, habove⟩ := pow_places hwhole hplaces
    have hleading : ((places + 1 : Nat) : Int) - 1 = places := by omega
    have hnext : (places : Int) + 1 = (places + 1 : Nat) := by omega
    rw [if_pos hlarge, hplaces, hleading, hnext, (tens_natCast _).1, (tens_natCast _).2,
      (tens_natCast _).1, (tens_natCast _).2, Nat.mul_one, Nat.mul_comm one, Nat.mul_comm one,
      ← Nat.le_div_iff_mul_le (by decide), ← Nat.div_lt_iff_lt_mul (by decide)]
    exact ⟨hbelow, habove⟩
  · have hwhole : 1 ≤ (one - 1) / a.units := (Nat.le_div_iff_mul_le h).mpr (by omega)
    obtain ⟨places, hplaces⟩ := exists_places ((one - 1) / a.units)
    obtain ⟨hbelow, habove⟩ := pow_places hwhole hplaces
    have hnext : -((places + 1 : Nat) : Int) + 1 = -(places : Nat) := by omega
    rw [Nat.div_lt_iff_lt_mul h] at habove
    rw [Nat.le_div_iff_mul_le h] at hbelow
    rw [if_neg hlarge, hplaces, hnext, (tens_neg _).1, (tens_neg _).2, (tens_neg _).1, (tens_neg _).2,
      Nat.mul_one, Nat.mul_comm a.units, Nat.mul_comm a.units]
    have hone : 1 ≤ one := by decide
    omega

/-- No leading digit is further than 400 places behind the point. -/
theorem leading_ge (a : Magnitude) : -400 ≤ a.leading := by
  obtain ⟨far, hfar, hone⟩ : ∃ far, far = 399 ∧ one - 1 < 10 ^ (far + 1) := ⟨399, rfl, by decide +kernel⟩
  rw [leading]
  split
  · omega
  · have hsmall := lt_of_le_of_lt (Nat.div_le_self (one - 1) a.units) hone
    have hplaces := (Nat.length_toDigits_le_iff (by decide) (Nat.succ_pos far)).mpr hsmall
    omega

/-- The grid point below has as many digits as the grid has places from the leading digit on. -/
theorem floorOn_bounds {a : Magnitude} (h : 0 < a.units) (n : Nat) :
    10 ^ n ≤ (a.floorOn (a.leading - n)).digits ∧ (a.floorOn (a.leading - n)).digits < 10 ^ (n + 1) := by
  obtain ⟨hbelow, habove⟩ := leading_bounds h
  have hpositive : ∀ exponent, 0 < one * tensAbove exponent :=
    fun exponent => Nat.mul_pos (by decide) (tensAbove_pos exponent)
  -- both bounds are cleared of the divisions by powers below the point
  constructor
  · rw [floorOn, Nat.le_div_iff_mul_le (hpositive _)]
    refine Nat.le_of_mul_le_mul_right ?_ (tensBelow_pos a.leading)
    calc 10 ^ n * (one * tensAbove (a.leading - n)) * tensBelow a.leading
        = one * (10 ^ n * (tensAbove (a.leading - n) * tensBelow a.leading)) := by ring
      _ = one * tensAbove a.leading * tensBelow (a.leading - n) := by rw [← tens_sub]; ring
      _ ≤ a.units * tensBelow a.leading * tensBelow (a.leading - n) := Nat.mul_le_mul_right _ hbelow
      _ = a.units * tensBelow (a.leading - n) * tensBelow a.leading := by ring
  · have hplace : a.leading - n = a.leading + 1 - (n + 1 : Nat) := by omega
    rw [floorOn, Nat.div_lt_iff_lt_mul (hpositive _), hplace]
    refine Nat.lt_of_mul_lt_mul_right (a := tensBelow (a.leading + 1)) ?_
    calc a.units * tensBelow (a.leading + 1 - (n + 1 : Nat)) * tensBelow (a.leading + 1)
        = a.units * tensBelow (a.leading + 1) * tensBelow (a.leading + 1 - (n + 1 : Nat)) := by ring
      _ < one * tensAbove (a.leading + 1) * tensBelow (a.leading + 1 - (n + 1 : Nat)) :=
        Nat.mul_lt_mul_of_pos_right habove (tensBelow_pos _)
      _ = one * (tensAbove (a.leading + 1) * tensBelow (a.leading + 1 - (n + 1 : Nat))) := by ring
      _ = 10 ^ (n + 1) * (one * tensAbove (a.leading + 1 - (n + 1 : Nat))) * tensBelow (a.leading + 1) := by
        rw [tens_sub]; ring

/-! ## The shortest decimal -/

theorem quarters_le_upperQuarters (a : Magnitude) : a.quarters ≤ a.upperQuarters := Nat.le_add_right _ _

theorem lowerQuarters_le_upperQuarters (a : Magnitude) : a.lowerQuarters ≤ a.upperQuarters := by
  refine le_trans ?_ a.quarters_le_upperQuarters
  unfold lowerQuarters
  split
  · exact Nat.sub_le _ _
  · exact Nat.sub_le _ _

/-- A decimal that rounds to a magnitude is at most half way to the next larger one. -/
theorem atMost_of_admits {a : Magnitude} {d : Decimal} (h : a.admits d = true) :
    d.AtMost a.upperQuarters := by
  -- `admits` is opened as a function: a term it is applied to would have its comparisons evaluated.
  have opened : ∀ f, f = admits → f a d = true → d.compareQuarters a.upperQuarters ≠ .gt ∨
      d.compareQuarters a.lowerQuarters ≠ .gt := by
    delta admits
    rintro _ rfl h
    dsimp only at h
    generalize d.compareQuarters a.lowerQuarters = low at h ⊢
    generalize d.compareQuarters a.upperQuarters = high at h ⊢
    cases low <;> cases high <;> simp_all
  obtain hhigh | hlow := opened admits rfl h
  · exact atMost_iff.mpr hhigh
  · exact le_trans (atMost_iff.mpr hlow) (Nat.mul_le_mul_right _ a.lowerQuarters_le_upperQuarters)

/-- What is found on a grid is one of two neighbours, and rounds to the magnitude. -/
theorem bestOn_eq_some {a : Magnitude} {exponent : Int} {d : Decimal} (h : a.bestOn exponent = some d) :
    a.admits d = true ∧ (d = a.floorOn exponent ∨ d = ⟨(a.floorOn exponent).digits + 1, exponent⟩) := by
  have opened : ∀ f, f = bestOn → f a exponent = some d → a.admits d = true ∧
      (d = a.floorOn exponent ∨ d = ⟨(a.floorOn exponent).digits + 1, exponent⟩) := by
    delta bestOn
    rintro _ rfl h
    dsimp only at h
    generalize a.floorOn exponent = below at h ⊢
    generalize (⟨below.digits + 1, exponent⟩ : Decimal) = above at h ⊢
    generalize hlow : a.admits below = low at h
    generalize hhigh : a.admits above = high at h
    generalize compare (below.distance a.quarters) (above.distance a.quarters) = nearer at h
    have hneighbour : d = below ∧ low = true ∨ d = above ∧ high = true := by
      cases low <;> cases high <;> cases nearer <;> grind
    obtain ⟨rfl, rfl⟩ | ⟨rfl, rfl⟩ := hneighbour
    · exact ⟨hlow, .inl rfl⟩
    · exact ⟨hhigh, .inr rfl⟩
  exact opened bestOn rfl h

theorem floorOn_atMost (a : Magnitude) (exponent : Int) : (a.floorOn exponent).AtMost a.upperQuarters := by
  have hfloor := Nat.div_mul_le_self (a.units * tensBelow exponent) (one * tensAbove exponent)
  show a.units * tensBelow exponent / (one * tensAbove exponent) * tensAbove exponent * (4 * one) ≤ _
  calc a.units * tensBelow exponent / (one * tensAbove exponent) * tensAbove exponent * (4 * one)
      = 4 * (a.units * tensBelow exponent / (one * tensAbove exponent) * (one * tensAbove exponent)) := by
        ring
    _ ≤ 4 * (a.units * tensBelow exponent) := Nat.mul_le_mul_left 4 hfloor
    _ = a.quarters * tensBelow exponent := by rw [quarters, Nat.mul_assoc]
    _ ≤ a.upperQuarters * tensBelow exponent := Nat.mul_le_mul_right _ a.quarters_le_upperQuarters

theorem shortest_of_isZero {a : Magnitude} (h : a.isZero = true) : a.shortest = ⟨0, 0⟩ := by
  have opened : ∀ f, f = shortest → f a = ⟨0, 0⟩ := by
    delta shortest
    rintro _ rfl
    exact if_pos h
  exact opened shortest rfl

/-- The shortest decimal comes from the first grid that has one, or from the grid of seventeen digits. -/
theorem shortest_cases {a : Magnitude} (h : a.isZero = false) :
    (∃ n d, n < 17 ∧ a.bestOn (a.leading - (n : Nat)) = some d ∧ a.shortest = d.trim) ∨
      a.shortest = a.floorOn (a.leading - (16 : Nat)) := by
  have opened : ∀ f, f = shortest →
      (∃ n d, n < 17 ∧ a.bestOn (a.leading - (n : Nat)) = some d ∧ f a = d.trim) ∨
        f a = a.floorOn (a.leading - (16 : Nat)) := by
    delta shortest
    rintro _ rfl
    dsimp only
    rw [h, if_neg Bool.false_ne_true]
    generalize hfound : (List.range 17).findSome? (fun n : Nat => a.bestOn (a.leading - (n : Int))) = found
    cases found with
    | none => exact .inr rfl
    | some d =>
      obtain ⟨n, hn, hbest⟩ := List.exists_of_findSome?_eq_some hfound
      exact .inl ⟨n, d, List.mem_range.mp hn, hbest, rfl⟩
  exact opened shortest rfl

/-- The shortest decimal of a magnitude other than zero has at least one digit and at most seventeen, or is a power
of ten, its last digit is at most sixteen places behind the leading one of the magnitude, and it is at most half
way to the next larger magnitude. -/
theorem shortest_bounds {a : Magnitude} (h : a.isZero = false) :
    a.shortest.digits ≠ 0 ∧ a.shortest.digits ≤ 10 ^ 17 ∧ a.leading - 16 ≤ a.shortest.exponent ∧
      a.shortest.AtMost a.upperQuarters := by
  have hunits := units_pos h
  obtain ⟨n, d, hn, hbest, hshortest⟩ | hshortest := shortest_cases h
  · obtain ⟨hadmits, hneighbour⟩ := bestOn_eq_some hbest
    obtain ⟨hlow, hhigh⟩ := floorOn_bounds hunits n
    have hmost : 10 ^ (n + 1) ≤ 10 ^ 17 := Nat.pow_le_pow_right (by decide) hn
    have hleast : 0 < 10 ^ n := Nat.pow_pos (by decide)
    have hgrid : d.digits ≠ 0 ∧ d.digits ≤ 10 ^ (n + 1) ∧ d.exponent = a.leading - n := by
      rcases hneighbour with rfl | rfl
      · exact ⟨by omega, by omega, rfl⟩
      · exact ⟨by simp, hhigh, rfl⟩
    obtain ⟨hne, hle, hexponent, hat⟩ := trim_bounds hgrid.1 (atMost_of_admits hadmits)
    rw [hshortest]
    exact ⟨hne, by omega, by omega, hat⟩
  · obtain ⟨hlow, hhigh⟩ := floorOn_bounds hunits 16
    rw [hshortest]
    exact ⟨by omega, by omega, by rfl, a.floorOn_atMost _⟩

/-! ## Reading it back -/

/-- The five largest magnitudes. -/
def nearTop (below : Fin 5) : Magnitude where
  digits := (1 <<< 53) - 1 - below
  shift := 2045
  digits_lt := by omega
  shift_le := by decide
  normal := .inr (by revert below; decide)

/-- The shortest decimals of the five largest magnitudes leave room for both roundings. -/
theorem nearTop_room (below : Fin 5) : 0 ≤ (nearTop below).shortest.exponent ∧
    (nearTop below).shortest.exponent.toNat ≤ 308 ∧ (nearTop below).shortest.digits * one < maxUnits ∧
    roundedUnits ((nearTop below).shortest.digits * one) 1 *
      roundedUnits (Nat.pow 10 (nearTop below).shortest.exponent.toNat * one) 1 / one < maxUnits := by
  revert below
  decide +kernel

theorem eq_nearTop {a : Magnitude} (hshift : a.shift = 2045) (hdigits : (1 <<< 53) - 5 ≤ a.digits) :
    ∃ below, a = nearTop below := by
  have hlt := a.digits_lt
  have hback : a.digits = (1 <<< 53) - 1 - ((1 <<< 53) - 1 - a.digits) := by omega
  refine ⟨⟨(1 <<< 53) - 1 - a.digits, by omega⟩, ?_⟩
  cases a
  simp only [nearTop, mk.injEq]
  exact ⟨hback, hshift⟩

/-- Other magnitudes have upper ends that leave room for both roundings. -/
theorem near_or_safe (a : Magnitude) :
    (∃ below, a = nearTop below) ∨ a.upperQuarters ≤ safeProduct * (4 * one) := by
  obtain ⟨last, hlast, hsafe⟩ : ∃ last, last = 2045 ∧ safeProduct * (4 * one) = ((1 <<< 55) - 22) <<< last :=
    ⟨2045, rfl, by decide +kernel⟩
  have hupper : a.upperQuarters = (2 * a.digits + 1) * (2 * 2 ^ a.shift) := by
    rw [upperQuarters, quarters, units, Nat.shiftLeft_eq, Nat.shiftLeft_eq]
    ring
  have hdigits := a.digits_lt
  have hshift := a.shift_le
  -- only at the largest shift the upper end can come near the bound
  by_cases htop : a.shift = 2045
  · by_cases hnear : (1 <<< 53) - 5 ≤ a.digits
    · exact .inl (eq_nearTop htop hnear)
    · right
      rw [hupper, hsafe, Nat.shiftLeft_eq, htop, ← hlast, ← Nat.mul_assoc]
      exact Nat.mul_le_mul_right _ (by omega)
  · right
    have hbelow : 2 * 2 ^ a.shift ≤ 2 ^ last := by
      rw [← Nat.pow_succ']
      exact Nat.pow_le_pow_right (by decide) (by omega)
    rw [hupper, hsafe, Nat.shiftLeft_eq]
    exact Nat.mul_le_mul (by omega) hbelow

/-- The shortest decimal is that of one of the five largest magnitudes, or a product that leaves room. -/
theorem near_or_product_le {a : Magnitude} (h : a.isZero = false) (he : 0 ≤ a.shortest.exponent) :
    (∃ below, a = nearTop below) ∨ a.shortest.digits * 10 ^ a.shortest.exponent.toNat ≤ safeProduct := by
  obtain ⟨-, -, -, hat⟩ := shortest_bounds h
  obtain hnear | hsafe := near_or_safe a
  · exact .inl hnear
  · have hexponent : ((a.shortest.exponent.toNat : Nat) : Int) = a.shortest.exponent := by omega
    unfold AtMost at hat
    rw [← hexponent, (tens_natCast _).1, (tens_natCast _).2, Nat.mul_one] at hat
    exact .inr (Nat.le_of_mul_le_mul_right (hat.trans hsafe) (by decide))

/-- The shortest decimal of a magnitude can be scaled to a double. -/
theorem exists_scaled_shortest {a : Magnitude} (h : a.isZero = false) :
    ∃ b, (ofNat? a.shortest.digits).bind (·.scaledByTens a.shortest.exponent) = some b := by
  obtain ⟨hne, hle, -, -⟩ := shortest_bounds h
  by_cases hnegative : a.shortest.exponent < 0
  · exact exists_scaledByTens_of_neg (lt_of_le_of_lt hle (by decide)) hnegative
  have hexponent : ((a.shortest.exponent.toNat : Nat) : Int) = a.shortest.exponent := by omega
  rw [← hexponent]
  obtain ⟨below, rfl⟩ | hproduct := near_or_product_le h (by omega)
  · obtain ⟨-, hsmall, hfits, hroom⟩ := nearTop_room below
    exact exists_scaledByTens_of_rounded hfits hsmall hroom
  · exact exists_scaledByTens (Nat.pos_of_ne_zero hne) hproduct

/-- The power of ten of the shortest decimal has at most three digits. -/
theorem shortest_exponent {a : Magnitude} (h : a.isZero = false) :
    -416 ≤ a.shortest.exponent ∧ a.shortest.exponent ≤ 308 := by
  obtain ⟨hne, -, hleading, -⟩ := shortest_bounds h
  have hlow := leading_ge a
  refine ⟨by omega, ?_⟩
  by_cases hnegative : a.shortest.exponent < 0
  · omega
  obtain ⟨below, rfl⟩ | hproduct := near_or_product_le h (by omega)
  · obtain ⟨-, hsmall, -⟩ := nearTop_room below
    omega
  · have hsmall := exponent_le_of_safe (Nat.pos_of_ne_zero hne) hproduct
    omega

end Magnitude

end JsonShape
