import JsonShape.Projection.Declarations
import JsonShape.Proofs.Text.Digits
import Mathlib.Data.List.Nodup

/-!
# Free names

The first free name for a wanted one is the wanted name itself or, if that is taken, the stem with the smallest
number from two on that makes it free (`FirstFree`).  There is no more than one such name, and `firstFree` gives it
(`firstFree_isFirst`): it tries one name more than are taken, and all of them differ.
-/

namespace JsonShape

/-- The first name that is not taken, of the wanted one and the stem with the numbers from two on. -/
inductive FirstFree (wanted stem : String) (taken : List String) : String → Prop
  | wanted (h : wanted ∉ taken) : FirstFree wanted stem taken wanted
  | numbered {n : Nat} (hw : wanted ∈ taken) (hn : 2 ≤ n) (hfree : stem ++ toString n ∉ taken)
      (hleast : ∀ m, 2 ≤ m → m < n → stem ++ toString m ∈ taken) :
      FirstFree wanted stem taken (stem ++ toString n)

/-- Numbered names differ. -/
theorem numbered_inj {stem : String} {m n : Nat} (h : stem ++ toString m = stem ++ toString n) : m = n :=
  toString_nat_inj ((String.append_right_inj stem).mp h)

theorem nodup_numbered (stem : String) (count : Nat) :
    ((List.range count).map fun n => stem ++ toString (n + 2)).Nodup :=
  List.nodup_range.map fun _ _ h => Nat.add_right_cancel (numbered_inj h)

section FirstFree

variable {wanted stem : String} {taken : List String} {name other : String}

theorem FirstFree.notMem (h : FirstFree wanted stem taken name) : name ∉ taken := by
  cases h with
  | wanted h => exact h
  | numbered _ _ hfree _ => exact hfree

theorem FirstFree.unique (h : FirstFree wanted stem taken name) (h' : FirstFree wanted stem taken other) :
    name = other := by
  cases h with
  | wanted hw =>
    cases h' with
    | wanted => rfl
    | numbered hw' => exact absurd hw' hw
  | @numbered n hw hn hfree hleast =>
    cases h' with
    | wanted hw' => exact absurd hw hw'
    | @numbered n' _ hn' hfree' hleast' =>
      rcases Nat.lt_trichotomy n n' with hlt | rfl | hlt
      · exact absurd (hleast' n hn hlt) hfree
      · rfl
      · exact absurd (hleast n' hn' hlt) hfree'

/-- **The first free name is found** among the names that are tried. -/
theorem firstFree_isFirst (wanted stem : String) (taken : List String) :
    FirstFree wanted stem taken (firstFree wanted stem taken) := by
  unfold firstFree
  by_cases hw : wanted ∈ taken
  · simp only [if_pos hw, List.find?_map]
    cases hf : (List.range (taken.length + 1)).find?
        ((fun name => decide (name ∉ taken)) ∘ fun n => stem ++ toString (n + 2)) with
    | some n =>
      obtain ⟨hfree, -, hleast⟩ := List.find?_range_eq_some.mp hf
      refine .numbered hw (Nat.le_add_left 2 n) (by simpa using hfree) fun m hm hlt => ?_
      obtain ⟨k, rfl⟩ := Nat.exists_eq_add_of_le' hm
      simpa using hleast k (by omega)
    | none =>
      -- otherwise all of the numbered names, one more than there are, would be taken
      have hsubset : ((List.range (taken.length + 1)).map fun n => stem ++ toString (n + 2)) ⊆ taken := by
        intro name hn
        obtain ⟨n, hrange, rfl⟩ := List.mem_map.mp hn
        simpa using List.find?_range_eq_none.mp hf n (List.mem_range.mp hrange)
      have hle := (nodup_numbered stem (taken.length + 1)).length_le_of_subset hsubset
      rw [List.length_map, List.length_range] at hle
      omega
  · rw [if_neg hw]
    exact .wanted hw

theorem firstFree_eq_iff : firstFree wanted stem taken = name ↔ FirstFree wanted stem taken name :=
  ⟨fun h => h ▸ firstFree_isFirst wanted stem taken, (firstFree_isFirst wanted stem taken).unique⟩

end FirstFree

theorem firstFree_notMem (wanted stem : String) (taken : List String) :
    firstFree wanted stem taken ∉ taken := (firstFree_isFirst wanted stem taken).notMem

/-- The name is the wanted one or a numbered one. -/
theorem firstFree_cases (wanted stem : String) (taken : List String) :
    firstFree wanted stem taken = wanted ∨ ∃ n, firstFree wanted stem taken = stem ++ toString (n + 2) := by
  have hfirst := firstFree_isFirst wanted stem taken
  generalize firstFree wanted stem taken = name at hfirst
  cases hfirst with
  | wanted => exact .inl rfl
  | @numbered n _ hn =>
    obtain ⟨k, rfl⟩ := Nat.exists_eq_add_of_le' hn
    exact .inr ⟨k, rfl⟩

theorem freeType_notMem (wanted : String) (taken : List String) : freeType wanted taken ∉ taken :=
  firstFree_notMem wanted wanted taken

end JsonShape
