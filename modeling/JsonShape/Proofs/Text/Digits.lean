/-!
# Digits of numbers

The text of a number is made of its digits, and numbers with the same text are the same.
-/

namespace JsonShape

theorem toList_toString_nat (n : Nat) : (toString n).toList = Nat.toDigits 10 n := by
  rw [Nat.toString_eq_repr, Nat.repr_eq_ofList_toDigits, String.toList_ofList]

theorem toString_nat_inj {m n : Nat} (h : toString m = toString n) : m = n := by
  have hdigits : Nat.toDigits 10 m = Nat.toDigits 10 n := by
    rw [← toList_toString_nat, h, toList_toString_nat]
  calc m = Nat.ofDigitChars 10 (Nat.toDigits 10 m) 0 := Nat.ofDigitChars_ten_toDigits.symm
    _ = Nat.ofDigitChars 10 (Nat.toDigits 10 n) 0 := by rw [hdigits]
    _ = n := Nat.ofDigitChars_ten_toDigits

theorem isDigit_toDigits (n : Nat) : ∀ c ∈ Nat.toDigits 10 n, c.isDigit :=
  fun _ hc => Nat.isDigit_of_mem_toDigits (by decide) (by decide) hc

/-- A class of characters that has the digits has all of the text of a number. -/
theorem all_toString {p : Char → Bool} (h : ∀ c, c.isDigit = true → p c = true) (n : Nat) :
    (toString n).toList.all p = true := by
  rw [toList_toString_nat, List.all_eq_true]
  exact fun c hc => h c (isDigit_toDigits n c hc)

/-- What holds of single digits holds of the digits of a number. -/
theorem forall_mem_toDigits {p : Char → Prop} {base : Nat} (hb : 1 < base)
    (h : ∀ digit < base, p (Nat.digitChar digit)) (n : Nat) : ∀ c ∈ Nat.toDigits base n, p c := by
  induction n using Nat.strongRecOn with
  | ind n ih =>
    rw [Nat.toDigits_eq_if hb]
    by_cases hn : n < base
    · rw [if_pos hn, List.forall_mem_singleton]
      exact h n hn
    · have hless : n / base < n := Nat.div_lt_self (by omega) hb
      have hdigit : n % base < base := Nat.mod_lt n (by omega)
      rw [if_neg hn, List.forall_mem_append, List.forall_mem_singleton]
      exact ⟨ih _ hless, h _ hdigit⟩

end JsonShape
