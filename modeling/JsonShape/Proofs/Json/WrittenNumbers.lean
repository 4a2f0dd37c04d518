import JsonShape.Json.Printer
import JsonShape.Proofs.Binary64.Shortest
import JsonShape.Proofs.Json.Reading
import JsonShape.Proofs.Projection.Held
import JsonShape.Proofs.Text.Digits

/-!
# Written numbers are read

A whole number of 64 bits is read from its digits as it is (`spellsNumber_integer`).  A double is written as its
shortest decimal, in one of four layouts; the reader gets back the digits and the power of ten, or the digits of
the product and a zero behind the point (`unsignedNumber_text`), and there is a double for these
(`exists_spellsNumber`).  It may be another one than was written, as the reader rounds twice.
-/

namespace JsonShape

/-! ## Digits -/

theorem le_ofDigitChars (digits : List Char) (significand : Nat) :
    significand ≤ Nat.ofDigitChars 10 digits significand := by
  induction digits generalizing significand with
  | nil => simp
  | cons c rest ih =>
    rw [Nat.ofDigitChars_cons]
    exact le_trans (by omega) (ih _)

/-- Digits are taken into a significand as long as the number that they make fits into 64 bits. -/
theorem absorb_eq {digits : List Char} {significand : Nat}
    (h : Nat.ofDigitChars 10 digits significand < 1 <<< 64) :
    absorb significand digits = (Nat.ofDigitChars 10 digits significand, []) := by
  induction digits generalizing significand with
  | nil => simp [absorb]
  | cons c rest ih =>
    rw [Nat.ofDigitChars_cons, Nat.mul_comm] at h ⊢
    have hfits : significand * 10 + digitValue c < 1 <<< 64 := lt_of_le_of_lt (le_ofDigitChars rest _) h
    rw [absorb]
    exact (if_pos hfits).trans (ih h)

theorem exponentDigits_eq {digits : List Char} {exponent : Nat} (hd : ∀ c ∈ digits, c.isDigit)
    (h : Nat.ofDigitChars 10 digits exponent < 1 <<< 31) :
    exponentDigits exponent digits = (some (Nat.ofDigitChars 10 digits exponent), []) := by
  induction digits generalizing exponent with
  | nil => simp [exponentDigits]
  | cons c rest ih =>
    obtain ⟨hc, hrest⟩ := List.forall_mem_cons.mp hd
    rw [Nat.ofDigitChars_cons, Nat.mul_comm] at h ⊢
    have hfits : exponent * 10 + digitValue c < 1 <<< 31 := lt_of_le_of_lt (le_ofDigitChars rest _) h
    rw [exponentDigits, if_pos hc]
    exact (if_pos hfits).trans (ih hrest h)

/-- The digits of a number other than zero do not begin with one. -/
theorem toDigits_front {n : Nat} (h : n ≠ 0) : ∃ c rest, Nat.toDigits 10 n = c :: rest ∧ c ≠ '0' := by
  induction n using Nat.strongRecOn with
  | ind n ih =>
    by_cases hsmall : n < 10
    · rw [Nat.toDigits_of_lt_base hsmall]
      have hdigit : ∀ n < 10, n ≠ 0 → Nat.digitChar n ≠ '0' := by decide
      exact ⟨_, [], rfl, hdigit n hsmall h⟩
    · obtain ⟨c, rest, htens, hc⟩ := ih (n / 10) (by omega) (by omega)
      rw [Nat.toDigits_of_base_le (by decide) (by omega), htens]
      exact ⟨c, rest ++ [Nat.digitChar (n % 10)], rfl, hc⟩

/-- Digits that a number can begin with: zero alone, or none at the front. -/
structure WholeDigits (digits : List Char) : Prop where
  isDigit : ∀ c ∈ digits, c.isDigit
  front : digits = ['0'] ∨ ∃ c rest, digits = c :: rest ∧ c ≠ '0'

theorem isDigit_zero : ∀ c ∈ ['0'], c.isDigit := List.forall_mem_singleton.mpr rfl

theorem wholeDigits_zero : WholeDigits ['0'] := ⟨isDigit_zero, .inl rfl⟩

theorem wholeDigits_toDigits (n : Nat) : WholeDigits (Nat.toDigits 10 n) := by
  refine ⟨isDigit_toDigits n, ?_⟩
  by_cases h : n = 0
  · exact .inl (by rw [h, Nat.toDigits_zero])
  · exact .inr (toDigits_front h)

/-! ## Layouts -/

theorem endsDigits_cons {c : Char} (h : c.isDigit = false) (rest : List Char) : EndsDigits (c :: rest) := by
  intro c' rest' he
  cases he
  exact h

theorem endsDigits_nil : EndsDigits [] := endsNumber_nil.endsDigits

variable (negative : Bool) {whole fraction more : List Char}

theorem unsignedNumber_whole (hw : WholeDigits whole) (hm : EndsDigits more)
    (hfits : Nat.ofDigitChars 10 whole 0 < 1 <<< 64) :
    unsignedNumber negative (whole ++ more) = afterWhole negative (Nat.ofDigitChars 10 whole 0) 0 more := by
  obtain hzero | ⟨c, rest, hfront, hc⟩ := hw.front
  · subst hzero
    exact unsignedNumber_zero hm negative
  · have hne : whole ≠ [] := by simp [hfront]
    have hhead : whole.head hne ≠ '0' := by simpa [hfront] using hc
    rw [unsignedNumber_digits hne hw.isDigit hhead hm, absorb_eq hfits]
    rfl

/-- The digits before and after the point make one number. -/
theorem unsignedNumber_point (hw : WholeDigits whole) (hf : ∀ c ∈ fraction, c.isDigit) (hne : fraction ≠ [])
    (hm : EndsDigits more) (hfits : Nat.ofDigitChars 10 (whole ++ fraction) 0 < 1 <<< 64) :
    unsignedNumber negative (whole ++ '.' :: (fraction ++ more)) =
      exponentIfAny negative (Nat.ofDigitChars 10 (whole ++ fraction) 0) (-(fraction.length : Int)) more := by
  rw [Nat.ofDigitChars_append] at hfits ⊢
  have hwhole := lt_of_le_of_lt (le_ofDigitChars fraction _) hfits
  rw [unsignedNumber_whole negative hw (endsDigits_cons rfl _) hwhole, afterWhole, if_pos rfl,
    fractionOf_digits hne hf hm, absorb_eq hfits]
  simp

/-- A power of ten is read from its sign and its digits. -/
theorem exponentOf_power (significand : Nat) (scale : Int) {power : Int} (h : power.natAbs < 1 <<< 31) :
    exponentOf negative significand scale
      ((if 0 ≤ power then '+' else '-') :: Nat.toDigits 10 power.natAbs) =
        doubleOf negative significand (scale + power) [] := by
  have hvalue : Nat.ofDigitChars 10 (Nat.toDigits 10 power.natAbs) 0 = power.natAbs :=
    Nat.ofDigitChars_ten_toDigits
  have hdigits := isDigit_toDigits power.natAbs
  obtain ⟨c, rest, hcons⟩ := List.exists_cons_of_ne_nil (Nat.toDigits_ne_nil (n := power.natAbs) (b := 10))
  rw [hcons] at hvalue hdigits ⊢
  obtain ⟨hc, hrest⟩ := List.forall_mem_cons.mp hdigits
  have hfirst : Nat.ofDigitChars 10 rest (digitValue c) = power.natAbs := by
    rw [Nat.ofDigitChars_cons, Nat.mul_zero, Nat.zero_add] at hvalue
    exact hvalue
  have hread : exponentDigits (digitValue c) rest = (some power.natAbs, []) := by
    rw [exponentDigits_eq hrest (by rwa [hfirst]), hfirst]
  -- the sign is always written, a plus as well
  by_cases hp : 0 ≤ power
  · have hup : scale + (power.natAbs : Int) = scale + power := by omega
    rw [if_pos hp, exponentOf, exponentSign, ← hup]
    simp only [if_pos hc, hread]
    rfl
  · have hdown : scale - (power.natAbs : Int) = scale + power := by omega
    rw [if_neg hp, exponentOf, exponentSign, ← hdown]
    simp only [if_pos hc, hread]
    rfl

namespace Decimal

variable {d : Decimal}

/-- With a power of ten that is not negative, the digits of the product come before the point. -/
theorem unsignedNumber_product (hd : d.digits ≠ 0) {zeros : Nat} (hfits : d.digits * 10 ^ (zeros + 1) < 1 <<< 64) :
    unsignedNumber negative (Nat.toDigits 10 d.digits ++ List.replicate zeros '0' ++ ['.', '0']) =
      doubleOf negative (d.digits * 10 ^ (zeros + 1)) (-1) [] := by
  have hwhole : WholeDigits (Nat.toDigits 10 d.digits ++ List.replicate zeros '0') := by
    obtain ⟨c, rest, hfront, hc⟩ := toDigits_front hd
    refine ⟨List.forall_mem_append.mpr ⟨isDigit_toDigits _, fun c hc => ?_⟩, .inr ?_⟩
    · rw [List.eq_of_mem_replicate hc]
      rfl
    · exact ⟨c, rest ++ List.replicate zeros '0', by rw [hfront, List.cons_append], hc⟩
  have hvalue : Nat.ofDigitChars 10 (Nat.toDigits 10 d.digits ++ List.replicate zeros '0' ++ ['0']) 0 =
      d.digits * 10 ^ (zeros + 1) := by
    rw [List.append_assoc, ← List.replicate_succ', Nat.ofDigitChars_append, Nat.ofDigitChars_ten_toDigits,
      Nat.ofDigitChars_replicate_zero, Nat.mul_comm]
  have hread := unsignedNumber_point negative hwhole isDigit_zero (by simp) endsDigits_nil
    (by rwa [hvalue])
  rw [hvalue] at hread
  exact hread

/-- With as many digits before the point as are not behind it. -/
theorem unsignedNumber_split (hd : d.digits ≠ 0) (hfits : d.digits < 1 <<< 64) (before : Nat) (hb : before ≠ 0)
    (hlength : before < (Nat.toDigits 10 d.digits).length) (hm : EndsDigits more) :
    unsignedNumber negative ((Nat.toDigits 10 d.digits).take before ++
        '.' :: ((Nat.toDigits 10 d.digits).drop before ++ more)) =
      exponentIfAny negative d.digits (before - (Nat.toDigits 10 d.digits).length : Int) more := by
  have hdigits := isDigit_toDigits d.digits
  have hvalue : Nat.ofDigitChars 10 (Nat.toDigits 10 d.digits) 0 = d.digits := Nat.ofDigitChars_ten_toDigits
  -- the digits before the point have no leading zero
  have hwhole : WholeDigits ((Nat.toDigits 10 d.digits).take before) := by
    obtain ⟨c, rest, hfront, hc⟩ := toDigits_front hd
    obtain ⟨fewer, rfl⟩ := Nat.exists_eq_succ_of_ne_zero hb
    refine ⟨fun c hc => hdigits c (List.mem_of_mem_take hc), .inr ⟨c, rest.take fewer, ?_, hc⟩⟩
    rw [hfront, List.take_succ_cons]
  have hfraction : (Nat.toDigits 10 d.digits).drop before ≠ [] := by
    rw [ne_eq, List.drop_eq_nil_iff]
    omega
  have hread := unsignedNumber_point negative hwhole
    (fun c hc => hdigits c (List.mem_of_mem_drop hc)) hfraction hm (by rwa [List.take_append_drop, hvalue])
  rw [List.take_append_drop, hvalue, List.length_drop] at hread
  rw [hread]
  congr 1
  omega

/-- With nothing but zeros before the digits. -/
theorem unsignedNumber_behind (hfits : d.digits < 1 <<< 64) (zeros : Nat) :
    unsignedNumber negative ('0' :: '.' :: (List.replicate zeros '0' ++ Nat.toDigits 10 d.digits)) =
      doubleOf negative d.digits (-(zeros + (Nat.toDigits 10 d.digits).length : Nat) : Int) [] := by
  have hvalue : Nat.ofDigitChars 10 (['0'] ++ (List.replicate zeros '0' ++ Nat.toDigits 10 d.digits)) 0 =
      d.digits := by
    rw [← List.append_assoc, Nat.ofDigitChars_append, Nat.ofDigitChars_append, Nat.ofDigitChars_replicate_zero]
    exact Nat.ofDigitChars_ten_toDigits
  have hfraction : ∀ c ∈ List.replicate zeros '0' ++ Nat.toDigits 10 d.digits, c.isDigit := by
    refine List.forall_mem_append.mpr ⟨fun c hc => ?_, isDigit_toDigits _⟩
    rw [List.eq_of_mem_replicate hc]
    rfl
  have hread := unsignedNumber_point negative wholeDigits_zero hfraction (by simp [Nat.toDigits_ne_nil])
    endsDigits_nil (by rwa [hvalue])
  rw [hvalue, List.append_nil, List.length_append, List.length_replicate] at hread
  exact hread

theorem unsignedNumber_positional (hd : d.digits ≠ 0) (hfits : d.digits < 1 <<< 64)
    (hpower : (Nat.toDigits 10 d.digits).length + d.exponent - 1 ≤ 15) :
    unsignedNumber negative d.positional = doubleOf negative d.digits d.exponent [] ∨
      ∃ significand < 1 <<< 64, unsignedNumber negative d.positional = doubleOf negative significand (-1) [] := by
  have hlength := Nat.length_toDigits_pos (b := 10) (n := d.digits)
  unfold positional
  by_cases hexponent : 0 ≤ d.exponent
  · right
    -- digits, zeros and the one behind the point are at most seventeen, so they fit a word
    have hsmall : d.digits * 10 ^ (d.exponent.toNat + 1) < 1 <<< 64 := by
      have hdigits := (Nat.length_toDigits_le_iff (by decide) hlength).mp (le_refl _)
      calc d.digits * 10 ^ (d.exponent.toNat + 1)
          ≤ 10 ^ (Nat.toDigits 10 d.digits).length * 10 ^ (d.exponent.toNat + 1) :=
            Nat.mul_le_mul_right _ (Nat.le_of_lt hdigits)
        _ = 10 ^ ((Nat.toDigits 10 d.digits).length + (d.exponent.toNat + 1)) := (Nat.pow_add ..).symm
        _ ≤ 10 ^ 17 := Nat.pow_le_pow_right (by decide) (by omega)
        _ < 1 <<< 64 := by decide
    simp only [if_pos hexponent]
    exact ⟨_, hsmall, unsignedNumber_product negative hd hsmall⟩
  · left
    simp only [if_neg hexponent]
    -- the point stands among the digits or before them
    by_cases hwhole : 0 < (Nat.toDigits 10 d.digits).length + d.exponent
    · have hread := unsignedNumber_split negative hd hfits
        ((Nat.toDigits 10 d.digits).length + d.exponent).toNat (by omega) (by omega) endsDigits_nil
      rw [List.append_nil] at hread
      rw [if_pos hwhole, hread, exponentIfAny]
      congr 1
      omega
    · have hread := unsignedNumber_behind negative hfits
        (-((Nat.toDigits 10 d.digits).length + d.exponent)).toNat
      rw [if_neg hwhole, List.cons_append, List.cons_append, hread]
      congr 1
      omega

theorem unsignedNumber_scientific (hd : d.digits ≠ 0) (hfits : d.digits ≤ 10 ^ 17)
    (hexponent : -416 ≤ d.exponent ∧ d.exponent ≤ 308) :
    unsignedNumber negative d.scientific = doubleOf negative d.digits d.exponent [] := by
  have hsmall : d.digits < 1 <<< 64 := lt_of_le_of_lt hfits (by decide)
  have hplaces : (Nat.toDigits 10 d.digits).length ≤ 18 :=
    (Nat.length_toDigits_le_iff (by decide) (by decide)).mpr (lt_of_le_of_lt hfits (by decide))
  have hlength := Nat.length_toDigits_pos (b := 10) (n := d.digits)
  have hpower : ((Nat.toDigits 10 d.digits).length + d.exponent - 1).natAbs < 1 <<< 31 := by omega
  have hends : ∀ rest, EndsDigits ('e' :: rest) := endsDigits_cons rfl
  have hletter : isExponentLetter 'e' = true := rfl
  unfold scientific
  -- one digit has no point after it
  by_cases hone : (Nat.toDigits 10 d.digits).length ≤ 1
  · have hvalue : Nat.ofDigitChars 10 (Nat.toDigits 10 d.digits) 0 = d.digits := Nat.ofDigitChars_ten_toDigits
    simp only [if_pos hone]
    rw [List.take_of_length_le hone, List.append_nil,
      unsignedNumber_whole negative (wholeDigits_toDigits _) (hends _) (by rwa [hvalue]), hvalue, afterWhole,
      if_neg (by decide), if_pos hletter, exponentOf_power _ _ _ hpower]
    congr 1
    omega
  · simp only [if_neg hone]
    rw [List.append_assoc, List.cons_append,
      unsignedNumber_split negative hd hsmall 1 one_ne_zero (by omega) (hends _), exponentIfAny, if_pos hletter,
      exponentOf_power _ _ _ hpower]
    congr 1
    omega

/-- **A decimal is read as its digits and its power of ten**, or as their product with a zero behind it. -/
theorem unsignedNumber_text (hd : d.digits ≠ 0) (hfits : d.digits ≤ 10 ^ 17)
    (hexponent : -416 ≤ d.exponent ∧ d.exponent ≤ 308) :
    unsignedNumber negative d.text = doubleOf negative d.digits d.exponent [] ∨
      ∃ significand < 1 <<< 64, unsignedNumber negative d.text = doubleOf negative significand (-1) [] := by
  unfold text
  by_cases hpower : -5 ≤ ((Nat.toDigits 10 d.digits).length : Int) + d.exponent - 1 ∧
      ((Nat.toDigits 10 d.digits).length : Int) + d.exponent - 1 ≤ 15
  · simp only [if_pos hpower]
    exact unsignedNumber_positional negative hd (lt_of_le_of_lt hfits (by decide)) hpower.2
  · simp only [if_neg hpower]
    exact .inl (unsignedNumber_scientific negative hd hfits hexponent)

end Decimal

/-! ## Numbers -/

theorem exists_doubleOf {significand : Nat} {exponent : Int}
    (h : ∃ a, (Magnitude.ofNat? significand).bind (·.scaledByTens exponent) = some a) :
    ∃ n, doubleOf negative significand exponent [] = .ok (n, []) := by
  obtain ⟨a, ha⟩ := h
  exact ⟨.double ⟨negative, a⟩, by rw [doubleOf, ha, signedDouble]⟩

theorem exists_unsignedNumber_zero : ∃ n, unsignedNumber negative ['0', '.', '0'] = .ok (n, []) := by
  have hscaled : ∃ a, (Magnitude.ofNat? 0).bind (·.scaledByTens (-1)) = some a :=
    Magnitude.exists_scaledByTens_of_neg (by decide) (by decide)
  obtain ⟨n, hn⟩ := exists_doubleOf negative hscaled
  have hvalue : Nat.ofDigitChars 10 (['0'] ++ ['0']) 0 = 0 := by decide
  have hread := unsignedNumber_point negative wholeDigits_zero isDigit_zero (by simp) endsDigits_nil
    (by decide)
  rw [hvalue, exponentIfAny] at hread
  exact ⟨n, hread.trans hn⟩

/-- The shortest decimal of a magnitude is read as a number. -/
theorem exists_unsignedNumber (a : Magnitude) :
    ∃ n, unsignedNumber negative a.shortest.text = .ok (n, []) := by
  by_cases hzero : a.isZero
  · have htext : Decimal.text ⟨0, 0⟩ = ['0', '.', '0'] := by decide
    rw [Magnitude.shortest_of_isZero hzero, htext]
    exact exists_unsignedNumber_zero negative
  · rw [Bool.not_eq_true] at hzero
    obtain ⟨hne, hle, -, -⟩ := Magnitude.shortest_bounds hzero
    have hread : unsignedNumber negative a.shortest.text =
          doubleOf negative a.shortest.digits a.shortest.exponent [] ∨
        ∃ significand < 1 <<< 64, unsignedNumber negative a.shortest.text =
          doubleOf negative significand (-1) [] :=
      Decimal.unsignedNumber_text negative hne hle (Magnitude.shortest_exponent hzero)
    have hscaled := Magnitude.exists_scaled_shortest hzero
    generalize a.shortest = d at hread hscaled ⊢
    -- either the decimal itself is scaled, or its digits with zeros added up to the point
    obtain hread | ⟨significand, hfits, hread⟩ := hread
    · rw [hread]
      exact exists_doubleOf negative hscaled
    · rw [hread]
      exact exists_doubleOf negative (Magnitude.exists_scaledByTens_of_neg hfits (by decide))

/-- A number without its sign begins with a digit. -/
theorem digit_of_unsignedNumber {negative : Bool} {text rest : List Char} {n : Number}
    (h : unsignedNumber negative text = .ok (n, rest)) : ∃ c more, text = c :: more ∧ c.isDigit := by
  cases text with
  | nil => cases h
  | cons c more =>
    refine ⟨c, more, rfl, ?_⟩
    by_contra hc
    have hzero : c ≠ '0' := by
      rintro rfl
      exact hc rfl
    rw [unsignedNumber.eq_def] at h
    simp only [if_neg hzero, if_neg hc] at h
    cases h

theorem spellsNumber_negated {n : Number} {text : List Char} (h : unsignedNumber true text = .ok (n, [])) :
    SpellsNumber n ('-' :: text) := by
  obtain ⟨taken, hspells, htext⟩ := spellsNumber_of_negative h
  rwa [htext, List.append_nil]

theorem spellsNumber_plain {n : Number} {text : List Char} (h : unsignedNumber false text = .ok (n, [])) :
    SpellsNumber n text := by
  obtain ⟨c, more, rfl, hc⟩ := digit_of_unsignedNumber h
  obtain ⟨taken, hspells, hmore⟩ := spellsNumber_of_positive hc h
  rwa [hmore, List.append_nil]

theorem unsignedNumber_toDigits {n : Nat} (h : n < 1 <<< 64) :
    unsignedNumber negative (Nat.toDigits 10 n) = wholeNumber negative n [] := by
  have hvalue : Nat.ofDigitChars 10 (Nat.toDigits 10 n) 0 = n := Nat.ofDigitChars_ten_toDigits
  have hread := unsignedNumber_whole negative (wholeDigits_toDigits n) endsDigits_nil (by rwa [hvalue])
  rw [hvalue, List.append_nil, afterWhole_of_ends endsNumber_nil, afterWhole.finish, if_pos rfl] at hread
  exact hread

theorem toList_text_ofNat (m : Nat) : (Number.integer (.ofNat m)).text.toList = Nat.toDigits 10 m := Nat.toList_repr

theorem toList_text_negSucc (m : Nat) :
    (Number.integer (.negSucc m)).text.toList = '-' :: Nat.toDigits 10 (m + 1) := by
  show ("-" ++ (m + 1).repr).toList = _
  rw [String.toList_append, Nat.toList_repr]
  rfl

/-- **A whole number of 64 bits is read as it was written.** -/
theorem spellsNumber_integer {n : Int} (h : (Number.integer n).FitsWord) :
    SpellsNumber (.integer n) (Number.integer n).text.toList := by
  obtain ⟨hlow, hhigh⟩ := h
  cases n with
  | ofNat m =>
    have hfits : m < 1 <<< 64 := by
      rw [Int.ofNat_eq_natCast] at hhigh
      omega
    rw [toList_text_ofNat]
    exact spellsNumber_plain (unsignedNumber_toDigits false hfits)
  | negSucc m =>
    have hsmall : m + 1 ≤ 1 <<< 63 := by omega
    have hwhole : wholeNumber true (m + 1) [] = .ok (.integer (.negSucc m), []) := by
      rw [wholeNumber, if_neg (by simp), if_pos ⟨Nat.succ_pos m, hsmall⟩]
      rfl
    rw [toList_text_negSucc]
    exact spellsNumber_negated ((unsignedNumber_toDigits true (by omega)).trans hwhole)

/-- **Every number that is written is read as a number.** -/
theorem exists_spellsNumber {n : Number} (h : n.FitsWord) : ∃ m, SpellsNumber m n.text.toList := by
  cases n with
  | integer n => exact ⟨_, spellsNumber_integer h⟩
  | double x =>
    obtain ⟨negative, a⟩ := x
    obtain ⟨m, hm⟩ := exists_unsignedNumber negative a
    refine ⟨m, ?_⟩
    rw [Number.text, Binary64.text, String.toList_ofList]
    cases negative with
    | true => exact spellsNumber_negated hm
    | false => exact spellsNumber_plain hm

/-- A number is written in digits, signs, points and the letter before a power of ten. -/
theorem numeric_text (n : Number) : Numeric n.text.toList := by
  cases n with
  | double x =>
    obtain ⟨m, hm⟩ := exists_spellsNumber (n := .double x) trivial
    exact hm.numeric
  | integer n =>
    cases n with
    | ofNat m =>
      rw [toList_text_ofNat]
      exact numeric_of_digits (isDigit_toDigits m)
    | negSucc m =>
      rw [toList_text_negSucc]
      exact .cons (by decide) (numeric_of_digits (isDigit_toDigits (m + 1)))

end JsonShape
