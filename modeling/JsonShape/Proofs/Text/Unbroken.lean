import JsonShape.Text.Literal
import JsonShape.Proofs.Text.CaseMapping
import JsonShape.Proofs.Text.Digits

/-!
# Texts without line breaks

A line break is a sign, so words have none; neither have literals, where it is escaped, nor the digits of a
number.
-/

namespace JsonShape

/-- There is no line break in the text. -/
def Unbroken (text : List Char) : Prop := '\n' ∉ text

instance (text : List Char) : Decidable (Unbroken text) := inferInstanceAs (Decidable ('\n' ∉ text))

namespace Unbroken

theorem nil : Unbroken [] := List.not_mem_nil

theorem append {text more : List Char} (h : Unbroken text) (h' : Unbroken more) :
    Unbroken (text ++ more) := by
  intro hm
  rcases List.mem_append.mp hm with hm | hm
  · exact h hm
  · exact h' hm

theorem cons {c : Char} (hc : c ≠ '\n') {text : List Char} (h : Unbroken text) : Unbroken (c :: text) := by
  intro hm
  rcases List.mem_cons.mp hm with hm | hm
  · exact hc hm.symm
  · exact h hm

theorem of_cons {c : Char} {text : List Char} (h : Unbroken (c :: text)) : Unbroken text :=
  fun hm => h (List.mem_cons_of_mem _ hm)

theorem flatMap {α : Type} {items : List α} {write : α → List Char} (h : ∀ item ∈ items, Unbroken (write item)) :
    Unbroken (items.flatMap write) := by
  intro hm
  obtain ⟨item, hi, hc⟩ := List.mem_flatMap.mp hm
  exact h item hi hc

end Unbroken

theorem Signless.unbroken {text : List Char} (h : Signless text) : Unbroken text := h '\n' (by decide)

/-! ## Numbers and literals -/

theorem digitChar_ne_newline : ∀ digit < 16, Nat.digitChar digit ≠ '\n' := by decide

theorem unbroken_toDigits {base : Nat} (hb : 1 < base) (hle : base ≤ 16) (n : Nat) :
    Unbroken (Nat.toDigits base n) := by
  have hdigits : ∀ c ∈ Nat.toDigits base n, c ≠ '\n' :=
    forall_mem_toDigits hb (fun digit hd => digitChar_ne_newline digit (by omega)) n
  exact fun hm => hdigits '\n' hm rfl

theorem unbroken_toString (n : Nat) : Unbroken (toString n).toList := by
  rw [toList_toString_nat]
  exact unbroken_toDigits (by decide) (by decide) n

theorem unbroken_literalChar (c : Char) : Unbroken (literalChar c) := by
  unfold literalChar
  split
  · decide
  · decide
  · decide
  · decide
  · decide
  · decide
  · rename_i hnewline _ _
    by_cases hplain : (isPrintable c && !isExtending c) = true
    · rw [if_pos hplain]
      exact .cons hnewline .nil
    · have hdigits := unbroken_toDigits (by decide) (by decide : 16 ≤ 16) c.toNat
      rw [if_neg hplain, codePointEscape]
      exact Unbroken.append (Unbroken.append (by decide) hdigits) (by decide)

theorem unbroken_literal (s : String) : Unbroken (literal s).toList := by
  have hbody : Unbroken (s.toList.flatMap literalChar) := .flatMap fun c _ => unbroken_literalChar c
  rw [literal, String.toList_ofList]
  exact (Unbroken.cons (by decide) hbody).append (by decide)

end JsonShape
