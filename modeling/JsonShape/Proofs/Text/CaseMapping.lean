import JsonShape.Text.CaseMapping
import JsonShape.Text.Numeric
import Mathlib.Data.List.Basic

/-!
# What case mappings lead to

The mappings lead beyond the signs and digits of ASCII, so that a sign comes out of a mapping only if it went in
(`notMem_lowercase`, `notMem_uppercase`).  Within ASCII the lower case of letters and digits are small letters
and digits.
-/

namespace JsonShape

/-- What holds of the character of every code point below a bound holds of every character below it. -/
theorem forall_char_below {p : Char → Prop} {bound : Nat} (h : ∀ code < bound, p (Char.ofNat code)) {c : Char}
    (hc : c.toNat < bound) : p c := by
  have hchar := h c.toNat hc
  rwa [Char.ofNat_toNat] at hchar

/-- A character of ASCII that stands before the letters and is no digit, such as a blank, a line break or a
point; no word has one. -/
structure IsSign (x : Char) : Prop where
  pos : 0 < x.toNat
  before : x.toNat ≤ 0x40
  digit : x.isDigit = false

instance (x : Char) : Decidable (IsSign x) :=
  decidable_of_iff (0 < x.toNat ∧ x.toNat ≤ 0x40 ∧ x.isDigit = false)
    ⟨fun h => ⟨h.1, h.2.1, h.2.2⟩, fun h => ⟨h.pos, h.before, h.digit⟩⟩

theorem isAlpha_of_isSign {x : Char} (h : IsSign x) : x.isAlpha = false :=
  forall_char_below (p := fun c => c.isAlpha = false) (by decide) (Nat.lt_succ_of_le h.before)

theorem not_isAlphanumeric_of_isSign {x : Char} (h : IsSign x) : isAlphanumeric x = false := by
  have hascii : x.toNat < 0x80 := by
    have := h.before
    omega
  rw [isAlphanumeric, isAlphabetic, isNumeric, if_pos hascii, if_pos hascii, isAlpha_of_isSign h, h.digit]
  rfl

/-- There are no signs in the text. -/
def Signless (text : List Char) : Prop := ∀ x, IsSign x → x ∉ text

namespace Signless

theorem append {text more : List Char} (h : Signless text) (h' : Signless more) : Signless (text ++ more) := by
  intro x hx hm
  rcases List.mem_append.mp hm with hm | hm
  · exact h x hx hm
  · exact h' x hx hm

theorem of_all {text : List Char} (h : (text.all fun c => 0x40 < c.toNat || c.isDigit) = true) :
    Signless text := by
  intro x hx hm
  have hc := List.all_eq_true.mp h x hm
  rw [hx.digit, Bool.or_false, decide_eq_true_eq] at hc
  exact Nat.not_lt_of_le hx.before hc

end Signless

/-! ## Tables -/

/-- A code point beyond that of another character is not that character, unless it is NUL. -/
theorem ofNat_ne {x : Char} (hx : 0 < x.toNat) {code : Nat} (h : x.toNat < code) : Char.ofNat code ≠ x := by
  rintro rfl
  by_cases hv : code.isValidChar
  · have hchar : Char.ofNat code = Char.ofNatAux code hv := dif_pos hv
    have hcode : (Char.ofNat code).toNat = code := congrArg Char.toNat hchar
    omega
  · have hchar : Char.ofNat code = '\x00' := dif_neg hv
    rw [hchar] at hx
    exact absurd hx (by decide)

/-- Every entry of the tables leads beyond the signs. -/
def LeadsBeyond (several : List (Nat × List Nat)) (shifts : List Shift) : Prop :=
  (∀ entry ∈ several, ∀ code ∈ entry.2, 0x40 < code) ∧
    ∀ shift ∈ shifts, 0x40 < (shift.span.first : Int) + shift.distance

theorem notMem_mapped {several : List (Nat × List Nat)} {shifts : List Shift} (h : LeadsBeyond several shifts)
    {x c : Char} (hx : IsSign x) (hc : c ≠ x) : x ∉ mapped several shifts c := by
  have hbefore := hx.before
  unfold mapped
  split
  · rename_i codes hfound
    intro hm
    obtain ⟨code, hcode, he⟩ := List.mem_map.mp hm
    have hbeyond := h.1 _ (List.mem_of_find?_eq_some hfound) code hcode
    exact ofNat_ne hx.pos (by omega) he
  · split
    · rename_i shift hfound
      have hbeyond := h.2 shift (List.mem_of_find?_eq_some hfound)
      have hholds := List.find?_some hfound
      simp only [Span.holds, Bool.and_eq_true, decide_eq_true_eq] at hholds
      intro hm
      exact ofNat_ne hx.pos (by omega) (List.mem_singleton.mp hm).symm
    · exact fun hm => hc (List.mem_singleton.mp hm).symm

theorem leadsBeyond_lower : LeadsBeyond severalLower lowerShifts := by
  constructor
  · decide +kernel
  · decide +kernel

theorem leadsBeyond_upper : LeadsBeyond severalUpper upperShifts := by
  constructor
  · decide +kernel
  · decide +kernel

/-! ## Characters -/

/-- A letter of ASCII becomes a letter, and all other characters of ASCII stay as they are. -/
theorem ascii_image {c : Char} (h : c.toNat < 0x80) :
    (c.toLower = c ∨ 0x40 < c.toLower.toNat) ∧ (c.toUpper = c ∨ 0x40 < c.toUpper.toNat) :=
  forall_char_below (p := fun c => (c.toLower = c ∨ 0x40 < c.toLower.toNat) ∧
    (c.toUpper = c ∨ 0x40 < c.toUpper.toNat)) (by decide) h

/-- A sign comes out of a case mapping only if it went in. -/
theorem notMem_cased {several : List (Nat × List Nat)} {shifts : List Shift} (h : LeadsBeyond several shifts)
    {x c image : Char} (hi : c.toNat < 0x80 → image = c ∨ 0x40 < image.toNat) (hx : IsSign x) (hc : c ≠ x) :
    x ∉ if c.toNat < 0x80 then [image] else mapped several shifts c := by
  by_cases hascii : c.toNat < 0x80
  · rw [if_pos hascii]
    intro hm
    obtain rfl := List.mem_singleton.mp hm
    have hbefore := hx.before
    rcases hi hascii with he | hbeyond
    · exact hc he.symm
    · omega
  · rw [if_neg hascii]
    exact notMem_mapped h hx hc

theorem notMem_lowercase {x c : Char} (hx : IsSign x) (hc : c ≠ x) : x ∉ lowercase c :=
  notMem_cased leadsBeyond_lower (fun hascii => (ascii_image hascii).1) hx hc

theorem notMem_uppercase {x c : Char} (hx : IsSign x) (hc : c ≠ x) : x ∉ uppercase c :=
  notMem_cased leadsBeyond_upper (fun hascii => (ascii_image hascii).2) hx hc

/-! ## Letters and digits of ASCII -/

theorem isAlphanum_eq (c : Char) : c.isAlphanum = (c.isUpper || c.isLower || c.isDigit) := rfl

theorem toNat_lt_of_isAlphanum {c : Char} (h : c.isAlphanum = true) : c.toNat < 0x80 := by
  have hlast : c.val ≤ 'z'.val := by
    rw [isAlphanum_eq, Bool.or_eq_true, Bool.or_eq_true] at h
    rcases h with (hupper | hlower) | hdigit
    · have hcapital : 'A'.val ≤ c.val ∧ c.val ≤ 'Z'.val := of_decide_eq_true hupper
      exact UInt32.le_trans hcapital.2 (by decide)
    · exact of_decide_eq_true (Bool.and_eq_true _ _ |>.mp hlower).2
    · have hnine : c.val ≤ '9'.val := of_decide_eq_true (Bool.and_eq_true _ _ |>.mp hdigit).2
      exact UInt32.le_trans hnine (by decide)
  exact Nat.lt_of_le_of_lt (UInt32.le_iff_toNat_le.mp hlast) (by decide)

/-- A small letter or a digit of ASCII. -/
def isSmall (c : Char) : Bool := c.isLower || c.isDigit

theorem isAlphanum_of_isSmall {c : Char} (h : isSmall c = true) : c.isAlphanum = true := by
  rw [isAlphanum_eq, Bool.or_assoc, Bool.or_eq_true]
  exact .inr h

/-- The lower case of a letter or a digit of ASCII is a small letter or a digit. -/
theorem isSmall_of_mem_lowercase {c : Char} (hc : c.toNat < 0x80) (h : isAlphanumeric c = true) :
    ∀ d ∈ lowercase c, isSmall d = true := by
  have hlower := forall_char_below (p := fun c => isAlphanumeric c = true → isSmall c.toLower = true) (by decide) hc
  rw [lowercase, if_pos hc, List.forall_mem_singleton]
  exact hlower h

end JsonShape
