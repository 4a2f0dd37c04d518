import JsonShape.Json.NumberReader
import Mathlib.Data.List.TakeWhile

/-!
# Where a number ends

A number ends at the first character that cannot go on with it (`EndsNumber`), so what is read as a number
does not depend on what follows, and it is made of few kinds of characters (`Takes`).  This holds of each part
of a number, from the last one to the first, and so of a whole number without its sign
(`unsignedNumber_takes`).
-/

namespace JsonShape

/-- What cannot go on with a number. -/
def EndsNumber (after : List Char) : Prop :=
  ∀ c rest, after = c :: rest → c.isDigit = false ∧ c ≠ '.' ∧ isExponentLetter c = false

theorem endsNumber_nil : EndsNumber [] := by
  intro c rest he
  cases he

/-- What cannot go on with digits. -/
def EndsDigits (after : List Char) : Prop := ∀ c rest, after = c :: rest → c.isDigit = false

theorem EndsNumber.endsDigits {after : List Char} (h : EndsNumber after) : EndsDigits after :=
  fun c rest he => (h c rest he).1

/-- The characters that a number is written with. -/
def isNumberChar (c : Char) : Bool :=
  c.isDigit || c == '.' || isExponentLetter c || c == '+' || c == '-'

/-- Nothing but characters of numbers. -/
def Numeric (text : List Char) : Prop := ∀ c ∈ text, isNumberChar c

theorem numeric_nil : Numeric [] := by simp [Numeric]

theorem Numeric.cons {c : Char} {text : List Char} (hc : isNumberChar c) (h : Numeric text) :
    Numeric (c :: text) := List.forall_mem_cons.mpr ⟨hc, h⟩

theorem Numeric.append {text more : List Char} (h : Numeric text) (h' : Numeric more) :
    Numeric (text ++ more) := List.forall_mem_append.mpr ⟨h, h'⟩

theorem isNumberChar_of_isDigit {c : Char} (h : c.isDigit) : isNumberChar c := by
  simp [isNumberChar, h]

theorem numeric_of_digits {digits : List Char} (h : ∀ c ∈ digits, c.isDigit) : Numeric digits :=
  fun c hc => isNumberChar_of_isDigit (h c hc)

/-- The reader takes the front of the text as the number, and does so before anything that ends a number. -/
def Takes (read : Reader Number) (text : List Char) (n : Number) (rest : List Char) : Prop :=
  ∃ taken, text = taken ++ rest ∧ Numeric taken ∧
    ∀ after, EndsNumber after → read (taken ++ after) = .ok (n, after)

/-! ## Digits -/

/-- The digits at the front of a text, and what follows them. -/
theorem exists_digits (text : List Char) : ∃ digits, (∀ c ∈ digits, c.isDigit) ∧
    leadingDigits text = digits ∧ text = digits ++ skipDigits text := by
  refine ⟨leadingDigits text, fun _ hc => ?_, rfl, List.takeWhile_append_dropWhile.symm⟩
  exact List.all_eq_true.mp List.all_takeWhile _ hc

theorem endsDigits_skipDigits (text : List Char) : EndsDigits (skipDigits text) := by
  intro c rest he
  by_contra hd
  have hhead := List.head?_dropWhile_not Char.isDigit text
  rw [show text.dropWhile Char.isDigit = c :: rest from he] at hhead
  simp_all

/-- Whether a text goes on with digits depends on its end only where there is nothing before it. -/
theorem EndsDigits.append {taken rest after : List Char} (h : EndsDigits (taken ++ rest))
    (ha : EndsDigits after) : EndsDigits (taken ++ after) := by
  cases taken with
  | nil => exact ha
  | cons c others =>
    intro c' rest' he
    obtain ⟨rfl, -⟩ := List.cons.inj he
    exact h c _ rfl

theorem leadingDigits_append {digits after : List Char} (hd : ∀ c ∈ digits, c.isDigit)
    (ha : EndsDigits after) : leadingDigits (digits ++ after) = digits := by
  unfold leadingDigits
  rw [List.takeWhile_append_of_pos hd]
  cases after with
  | nil => simp
  | cons c rest => rw [List.takeWhile_cons_of_neg (by simp [ha c rest rfl]), List.append_nil]

theorem skipDigits_append {digits after : List Char} (hd : ∀ c ∈ digits, c.isDigit)
    (ha : EndsDigits after) : skipDigits (digits ++ after) = after := by
  unfold skipDigits
  rw [List.dropWhile_append_of_pos hd]
  cases after with
  | nil => rfl
  | cons c rest => rw [List.dropWhile_cons_of_neg (by simp [ha c rest rfl])]

/-- The digits at the front of a text that begins with one. -/
theorem exists_digits_cons {c : Char} (hc : c.isDigit) (more : List Char) : ∃ digits,
    digits ≠ [] ∧ (∀ d ∈ digits, d.isDigit) ∧ c :: more = digits ++ skipDigits (c :: more) := by
  obtain ⟨digits, hdigits, hleading, htext⟩ := exists_digits (c :: more)
  refine ⟨digits, ?_, hdigits, htext⟩
  rw [← hleading, leadingDigits, List.takeWhile_cons_of_pos hc]
  exact List.cons_ne_nil _ _

/-! ## Values -/

theorem doubleOf_takes {negative : Bool} {significand : Nat} {exponent : Int} {text rest : List Char}
    {n : Number} (h : doubleOf negative significand exponent text = .ok (n, rest)) :
    text = rest ∧ ∀ after, doubleOf negative significand exponent after = .ok (n, after) := by
  unfold doubleOf at h ⊢
  generalize (Magnitude.ofNat? significand).bind (·.scaledByTens exponent) = double at h ⊢
  cases double with
  | none => cases h
  | some magnitude =>
    cases h
    exact ⟨rfl, fun after => rfl⟩

theorem wholeNumber_takes {negative : Bool} {significand : Nat} {text rest : List Char} {n : Number}
    (h : wholeNumber negative significand text = .ok (n, rest)) :
    text = rest ∧ ∀ after, wholeNumber negative significand after = .ok (n, after) := by
  unfold wholeNumber at h ⊢
  by_cases hplain : (!negative) = true
  · simp only [if_pos hplain] at h ⊢
    cases h
    exact ⟨rfl, fun after => rfl⟩
  · simp only [if_neg hplain] at h ⊢
    by_cases hfits : 0 < significand ∧ significand ≤ 1 <<< 63
    · simp only [if_pos hfits] at h ⊢
      cases h
      exact ⟨rfl, fun after => rfl⟩
    · simp only [if_neg hfits] at h ⊢
      exact doubleOf_takes h

/-! ## Exponents -/

/-- An exponent that fits ends with its digits. -/
theorem exponentDigits_takes {exponent reached : Nat} {text rest : List Char}
    (h : exponentDigits exponent text = (some reached, rest)) :
    ∃ taken, text = taken ++ rest ∧ Numeric taken ∧
      ∀ after, EndsNumber after → exponentDigits exponent (taken ++ after) = (some reached, after) := by
  -- what ends a number has no digit in front, so the reader stops where it did
  have hstop : ∀ exponent after, EndsNumber after →
      exponentDigits exponent ([] ++ after) = (some exponent, after) := by
    intro exponent after ha
    cases after with
    | nil => rfl
    | cons c rest =>
      rw [List.nil_append, exponentDigits, if_neg (by simp [(ha c rest rfl).1])]
  fun_induction exponentDigits exponent text with
  | case1 exponent =>
    cases h
    exact ⟨[], rfl, numeric_nil, hstop _⟩
  | case2 exponent c more hd extended hfits ih =>
    obtain ⟨taken, rfl, hnumeric, htaken⟩ := ih h
    refine ⟨c :: taken, rfl, hnumeric.cons (isNumberChar_of_isDigit hd), fun after ha => ?_⟩
    rw [List.cons_append, exponentDigits, if_pos hd]
    show (if extended < 1 <<< 31 then _ else _) = _
    rw [if_pos hfits]
    exact htaken after ha
  | case3 exponent c more hd extended hfits => cases h
  | case4 exponent c more hd =>
    cases h
    exact ⟨[], rfl, numeric_nil, hstop _⟩

/-- An exponent that does not fit is given up inside its digits, whatever follows. -/
theorem exponentDigits_none {exponent : Nat} {text rest : List Char}
    (h : exponentDigits exponent text = (none, rest)) :
    ∃ taken, text = taken ++ rest ∧ Numeric taken ∧
      ∀ after, exponentDigits exponent (taken ++ after) = (none, after) := by
  fun_induction exponentDigits exponent text with
  | case2 exponent c more hd extended hfits ih =>
    obtain ⟨taken, rfl, hnumeric, htaken⟩ := ih h
    refine ⟨c :: taken, rfl, hnumeric.cons (isNumberChar_of_isDigit hd), fun after => ?_⟩
    rw [List.cons_append, exponentDigits, if_pos hd]
    show (if extended < 1 <<< 31 then _ else _) = _
    rw [if_pos hfits]
    exact htaken after
  | case3 exponent c more hd extended hfits =>
    cases h
    refine ⟨[c], rfl, numeric_nil.cons (isNumberChar_of_isDigit hd), fun after => ?_⟩
    rw [List.singleton_append, exponentDigits, if_pos hd]
    exact if_neg hfits
  | _ => cases h

/-- A sign is taken from before a digit. -/
theorem exponentSign_takes (text : List Char) : ∃ sign, text = sign ++ (exponentSign text).2 ∧
    Numeric sign ∧ ∀ c more, c.isDigit → exponentSign (sign ++ c :: more) = ((exponentSign text).1, c :: more) := by
  unfold exponentSign
  split
  · exact ⟨['+'], rfl, numeric_nil.cons rfl, fun c more hd => rfl⟩
  · exact ⟨['-'], rfl, numeric_nil.cons rfl, fun c more hd => rfl⟩
  · refine ⟨[], rfl, numeric_nil, fun c more hd => ?_⟩
    split
    · rename_i he
      obtain ⟨rfl, -⟩ := List.cons.inj he
      cases hd
    · rename_i he
      obtain ⟨rfl, -⟩ := List.cons.inj he
      cases hd
    · rfl

theorem exponentOf_takes {negative : Bool} {significand : Nat} {scale : Int} {text rest : List Char}
    {n : Number} (h : exponentOf negative significand scale text = .ok (n, rest)) :
    Takes (exponentOf negative significand scale) text n rest := by
  unfold exponentOf at h
  obtain ⟨sign, htext, hsigned, hsign⟩ := exponentSign_takes text
  generalize exponentSign text = signed at h htext hsign
  obtain ⟨down, left⟩ := signed
  cases left with
  | nil => cases h
  | cons c more =>
    by_cases hd : c.isDigit
    · simp only [if_pos hd] at h
      generalize he : exponentDigits (digitValue c) more = outcome at h
      obtain ⟨reached, left⟩ := outcome
      cases reached with
      -- an exponent that fits a machine word is read to its end, and otherwise its digits are skipped
      | some exponent =>
        obtain ⟨rfl, hdouble⟩ := doubleOf_takes h
        obtain ⟨taken, rfl, hnumeric, htaken⟩ := exponentDigits_takes he
        have hall := hsigned.append (hnumeric.cons (isNumberChar_of_isDigit hd))
        refine ⟨sign ++ c :: taken, by simp [htext], hall, fun after ha => ?_⟩
        rw [List.append_assoc, List.cons_append, exponentOf, hsign c (taken ++ after) hd]
        simp only [if_pos hd, htaken after ha]
        exact hdouble after
      | none =>
        -- too large an exponent is a fault, unless the number is zero or the exponent is negative
        by_cases hlarge : significand ≠ 0 ∧ !down
        · simp only [if_pos hlarge] at h
          cases h
        · simp only [if_neg hlarge, Except.ok.injEq, Prod.mk.injEq] at h
          obtain ⟨rfl, rfl⟩ := h
          obtain ⟨taken, rfl, hnumeric, htaken⟩ := exponentDigits_none he
          obtain ⟨digits, hdigits, -, hleft⟩ := exists_digits left
          have hdropped := hnumeric.append (numeric_of_digits hdigits)
          have hall := hsigned.append (hdropped.cons (isNumberChar_of_isDigit hd))
          refine ⟨sign ++ c :: (taken ++ digits), by simpa [htext] using hleft, hall, fun after ha => ?_⟩
          rw [List.append_assoc, List.cons_append, List.append_assoc, exponentOf,
            hsign c (taken ++ (digits ++ after)) hd]
          simp only [if_pos hd, htaken, if_neg hlarge, skipDigits_append hdigits ha.endsDigits]
    · simp only [if_neg hd] at h
      cases h

/-- Where a number ends there is no exponent. -/
theorem exponentIfAny_of_ends {after : List Char} (h : EndsNumber after) (negative : Bool)
    (significand : Nat) (scale : Int) :
    exponentIfAny negative significand scale after = doubleOf negative significand scale after := by
  cases after with
  | nil => rfl
  | cons c rest => rw [exponentIfAny, if_neg (by simp [(h c rest rfl).2.2])]

theorem exponentIfAny_takes {negative : Bool} {significand : Nat} {scale : Int} {text rest : List Char}
    {n : Number} (h : exponentIfAny negative significand scale text = .ok (n, rest)) :
    Takes (exponentIfAny negative significand scale) text n rest := by
  have hdouble : doubleOf negative significand scale text = .ok (n, rest) →
      Takes (exponentIfAny negative significand scale) text n rest := by
    intro h
    obtain ⟨rfl, hdouble⟩ := doubleOf_takes h
    exact ⟨[], rfl, numeric_nil, fun after ha => (exponentIfAny_of_ends ha ..).trans (hdouble after)⟩
  cases text with
  | nil => exact hdouble h
  | cons c more =>
    rw [exponentIfAny] at h
    by_cases hc : isExponentLetter c
    · rw [if_pos hc] at h
      obtain ⟨taken, rfl, hnumeric, htaken⟩ := exponentOf_takes h
      refine ⟨c :: taken, rfl, hnumeric.cons (by simp [isNumberChar, hc]), fun after ha => ?_⟩
      rw [List.cons_append, exponentIfAny, if_pos hc]
      exact htaken after ha
    · rw [if_neg hc] at h
      exact hdouble h

/-! ## Fractions -/

theorem fractionOf_digits {digits more : List Char} (hne : digits ≠ []) (hd : ∀ c ∈ digits, c.isDigit)
    (hm : EndsDigits more) (negative : Bool) (significand : Nat) (scale : Int) :
    fractionOf negative significand scale (digits ++ more) =
      exponentIfAny negative (absorb significand digits).1
        (scale - (digits.length - (absorb significand digits).2.length : Nat)) more := by
  have hleading := leadingDigits_append hd hm
  have hskip := skipDigits_append hd hm
  cases digits with
  | nil => exact absurd rfl hne
  | cons c others =>
    rw [List.cons_append] at hleading hskip ⊢
    rw [fractionOf, if_pos (hd c List.mem_cons_self), hleading, hskip]

theorem fractionOf_takes {negative : Bool} {significand : Nat} {scale : Int} {text rest : List Char}
    {n : Number} (h : fractionOf negative significand scale text = .ok (n, rest)) :
    Takes (fractionOf negative significand scale) text n rest := by
  cases text with
  | nil => cases h
  | cons c more =>
    by_cases hc : c.isDigit
    · obtain ⟨digits, hne, hdigits, htext⟩ := exists_digits_cons hc more
      have hends := endsDigits_skipDigits (c :: more)
      rw [htext, fractionOf_digits hne hdigits hends] at h
      obtain ⟨taken, hleft, hnumeric, htaken⟩ := exponentIfAny_takes h
      refine ⟨digits ++ taken, by rw [htext, hleft, List.append_assoc],
        (numeric_of_digits hdigits).append hnumeric, fun after ha => ?_⟩
      rw [List.append_assoc, fractionOf_digits hne hdigits ((hleft ▸ hends).append ha.endsDigits)]
      exact htaken after ha
    · rw [fractionOf, if_neg hc] at h
      cases h

/-! ## Whole numbers -/

theorem finish_takes {negative : Bool} {significand dropped : Nat} {text rest : List Char} {n : Number}
    (h : afterWhole.finish negative significand dropped text = .ok (n, rest)) :
    text = rest ∧ ∀ after, afterWhole.finish negative significand dropped after = .ok (n, after) := by
  unfold afterWhole.finish at h ⊢
  by_cases hall : dropped = 0
  · simp only [if_pos hall] at h ⊢
    exact wholeNumber_takes h
  · simp only [if_neg hall] at h ⊢
    exact doubleOf_takes h

/-- Where a number ends there is neither fraction nor exponent. -/
theorem afterWhole_of_ends {after : List Char} (h : EndsNumber after) (negative : Bool)
    (significand dropped : Nat) :
    afterWhole negative significand dropped after = afterWhole.finish negative significand dropped after := by
  cases after with
  | nil => rfl
  | cons c rest =>
    obtain ⟨-, hpoint, hletter⟩ := h c rest rfl
    rw [afterWhole, if_neg hpoint, if_neg (by simp [hletter])]

theorem afterWhole_takes {negative : Bool} {significand dropped : Nat} {text rest : List Char}
    {n : Number} (h : afterWhole negative significand dropped text = .ok (n, rest)) :
    Takes (afterWhole negative significand dropped) text n rest := by
  -- nothing is taken where neither a fraction nor an exponent follows
  have hfinish : afterWhole.finish negative significand dropped text = .ok (n, rest) →
      Takes (afterWhole negative significand dropped) text n rest := by
    intro h
    obtain ⟨rfl, hfinish⟩ := finish_takes h
    exact ⟨[], rfl, numeric_nil, fun after ha => (afterWhole_of_ends ha ..).trans (hfinish after)⟩
  cases text with
  | nil => exact hfinish h
  | cons c more =>
    rw [afterWhole] at h
    by_cases hpoint : c = '.'
    · rw [if_pos hpoint] at h
      obtain ⟨taken, rfl, hnumeric, htaken⟩ := fractionOf_takes h
      refine ⟨c :: taken, rfl, hnumeric.cons (by simp [isNumberChar, hpoint]), fun after ha => ?_⟩
      rw [List.cons_append, afterWhole, if_pos hpoint]
      exact htaken after ha
    · rw [if_neg hpoint] at h
      by_cases hletter : isExponentLetter c
      · rw [if_pos hletter] at h
        obtain ⟨taken, rfl, hnumeric, htaken⟩ := exponentOf_takes h
        refine ⟨c :: taken, rfl, hnumeric.cons (by simp [isNumberChar, hletter]), fun after ha => ?_⟩
        rw [List.cons_append, afterWhole, if_neg hpoint, if_pos hletter]
        exact htaken after ha
      · rw [if_neg hletter] at h
        exact hfinish h

theorem unsignedNumber_zero {more : List Char} (hm : EndsDigits more) (negative : Bool) :
    unsignedNumber negative ('0' :: more) = afterWhole negative 0 0 more := by
  cases more with
  | nil => rfl
  | cons d rest =>
    rw [unsignedNumber, if_pos rfl]
    exact if_neg (by simp [hm d rest rfl])

theorem unsignedNumber_digits {digits more : List Char} (hne : digits ≠ [])
    (hd : ∀ c ∈ digits, c.isDigit) (hz : digits.head hne ≠ '0') (hm : EndsDigits more) (negative : Bool) :
    unsignedNumber negative (digits ++ more) =
      afterWhole negative (absorb 0 digits).1 (absorb 0 digits).2.length more := by
  have hleading := leadingDigits_append hd hm
  have hskip := skipDigits_append hd hm
  cases digits with
  | nil => exact absurd rfl hne
  | cons c others =>
    rw [List.cons_append] at hleading hskip ⊢
    rw [unsignedNumber.eq_def]
    have hc : c ≠ '0' := hz
    simp only [if_neg hc, if_pos (hd c List.mem_cons_self), hleading, hskip]

/-- **A number ends where it cannot go on**: what is read of it does not depend on what follows. -/
theorem unsignedNumber_takes {negative : Bool} {text rest : List Char} {n : Number}
    (h : unsignedNumber negative text = .ok (n, rest)) : Takes (unsignedNumber negative) text n rest := by
  cases text with
  | nil => cases h
  | cons c more =>
    by_cases hzero : c = '0'
    · -- a leading zero stands alone: a digit after it is a fault
      subst hzero
      have hends : EndsDigits more := by
        intro d others he
        subst he
        by_contra hd
        rw [Bool.not_eq_false] at hd
        rw [unsignedNumber, if_pos rfl] at h
        simp only [if_pos hd] at h
        cases h
      rw [unsignedNumber_zero hends] at h
      obtain ⟨taken, rfl, hnumeric, htaken⟩ := afterWhole_takes h
      refine ⟨'0' :: taken, rfl, hnumeric.cons rfl, fun after ha => ?_⟩
      rw [List.cons_append, unsignedNumber_zero (hends.append ha.endsDigits)]
      exact htaken after ha
    · by_cases hc : c.isDigit
      · obtain ⟨digits, hne, hdigits, htext⟩ := exists_digits_cons hc more
        -- all digits are taken at once, so that what is left begins with none
        have hends := endsDigits_skipDigits (c :: more)
        have hhead : digits.head hne ≠ '0' := by
          obtain ⟨d, others, rfl⟩ := List.exists_cons_of_ne_nil hne
          obtain ⟨rfl, -⟩ := List.cons.inj htext
          exact hzero
        rw [htext, unsignedNumber_digits hne hdigits hhead hends] at h
        obtain ⟨taken, hleft, hnumeric, htaken⟩ := afterWhole_takes h
        refine ⟨digits ++ taken, by rw [htext, hleft, List.append_assoc],
          (numeric_of_digits hdigits).append hnumeric, fun after ha => ?_⟩
        rw [List.append_assoc,
          unsignedNumber_digits hne hdigits hhead ((hleft ▸ hends).append ha.endsDigits)]
        exact htaken after ha
      · rw [unsignedNumber.eq_def] at h
        simp only [if_neg hzero, if_neg hc] at h
        cases h

end JsonShape
