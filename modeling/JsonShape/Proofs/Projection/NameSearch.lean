import JsonShape.Proofs.Projection.Slots
import Mathlib.Logic.Relation

/-!
# The search for a free name

A name is claimed by a search: as long as the name that is tried is taken, the stem with the next number is tried,
and then the name is taken (`NameSearch.Step`).  No bound is set, but only finitely many numbers give a name that is
taken (`exists_bound_numbered`), so every search ends (`NameSearch.wellFounded_step`).  What has been tried on the way
(`NameSearch.Tried`) says that it ends with the first free name (`claims_iff`).
-/

namespace JsonShape

/-- A search: the name that is tried and the next number, or the name that was claimed; with the names that are
taken. -/
inductive NameSearch where
  | trying (name : String) (next : Nat) (taken : List String)
  | done (name : String) (taken : List String)

namespace NameSearch

/-- A step of the search for a name with the given stem. -/
inductive Step (stem : String) : NameSearch → NameSearch → Prop
  | next {name : String} {next : Nat} {taken : List String} (h : name ∈ taken) :
      Step stem (.trying name next taken) (.trying (stem ++ toString next) (next + 1) taken)
  | take {name : String} {next : Nat} {taken : List String} (h : name ∉ taken) :
      Step stem (.trying name next taken) (.done name (name :: taken))

/-- The search for a wanted name comes to an end with a name, and with the names that are then taken. -/
def Claims (wanted stem : String) (taken : List String) (name : String) (after : List String) : Prop :=
  Relation.ReflTransGen (Step stem) (.trying wanted 2 taken) (.done name after)

/-! ## Every search ends -/

/-- Only finitely many numbers give a name that is taken. -/
theorem exists_bound_numbered (stem : String) (taken : List String) :
    ∃ bound : Nat, ∀ n, bound ≤ n → stem ++ toString n ∉ taken := by
  induction taken with
  | nil => exact ⟨0, fun _ _ => List.not_mem_nil⟩
  | cons name rest ih =>
    obtain ⟨bound, hrest⟩ := ih
    by_cases hname : ∃ k : Nat, name = stem ++ toString k
    · obtain ⟨k, rfl⟩ := hname
      refine ⟨max bound (k + 1), fun n hn hm => ?_⟩
      rcases List.mem_cons.mp hm with he | hm
      · have := numbered_inj he
        omega
      · exact hrest n (by omega) hm
    · refine ⟨bound, fun n hn hm => ?_⟩
      rcases List.mem_cons.mp hm with he | hm
      · exact hname ⟨n, he.symm⟩
      · exact hrest n hn hm

section Ends

variable {stem name : String} {taken : List String}

theorem acc_done : Acc (fun after before => Step stem before after) (.done name taken) :=
  ⟨_, fun _ h => by cases h⟩

theorem acc_trying_of_notMem (h : name ∉ taken) (next : Nat) :
    Acc (fun after before => Step stem before after) (.trying name next taken) := by
  refine ⟨_, fun after hstep => ?_⟩
  cases hstep with
  | next hm => exact absurd hm h
  | take => exact acc_done

/-- Each step leaves fewer numbers up to the bound, and beyond it the name that is tried next is free. -/
theorem acc_trying {bound : Nat} (hbound : ∀ n, bound ≤ n → stem ++ toString n ∉ taken) (name : String) (next : Nat) :
    Acc (fun after before => Step stem before after) (.trying name next taken) := by
  induction hleft : bound - next generalizing name next with
  | zero =>
    refine ⟨_, fun after hstep => ?_⟩
    cases hstep with
    | next => exact acc_trying_of_notMem (hbound next (by omega)) (next + 1)
    | take => exact acc_done
  | succ left ih =>
    refine ⟨_, fun after hstep => ?_⟩
    cases hstep with
    | next => exact ih _ (next + 1) (by omega)
    | take => exact acc_done

theorem wellFounded_step (stem : String) : WellFounded fun after before => Step stem before after := by
  refine ⟨fun s => ?_⟩
  cases s with
  | done => exact acc_done
  | trying name next taken =>
    obtain ⟨bound, hbound⟩ := exists_bound_numbered stem taken
    exact acc_trying hbound name next

/-- A search that has not come to its end can go on, so each comes to one. -/
theorem exists_done (stem : String) (s : NameSearch) :
    ∃ name after, Relation.ReflTransGen (Step stem) s (.done name after) := by
  induction s using (wellFounded_step stem).induction with
  | _ s ih =>
    cases s with
    | done name taken => exact ⟨name, taken, .refl⟩
    | trying name next taken =>
      by_cases hm : name ∈ taken
      · obtain ⟨found, after, hrun⟩ := ih _ (.next hm)
        exact ⟨found, after, .head (.next hm) hrun⟩
      · exact ⟨name, name :: taken, .single (.take hm)⟩

end Ends

/-! ## What a search ends with -/

/-- What a search for a wanted name comes by: before a number is tried, all names before it are known to be taken. -/
inductive Tried (wanted stem : String) (taken : List String) : NameSearch → Prop
  | wanted : Tried wanted stem taken (.trying wanted 2 taken)
  | numbered {n : Nat} (hw : wanted ∈ taken) (hn : 2 ≤ n)
      (hbefore : ∀ m, 2 ≤ m → m < n → stem ++ toString m ∈ taken) :
      Tried wanted stem taken (.trying (stem ++ toString n) (n + 1) taken)
  | done {name : String} (h : FirstFree wanted stem taken name) : Tried wanted stem taken (.done name (name :: taken))

section Tried

variable {wanted stem : String} {taken : List String}

theorem Tried.step {s after : NameSearch} (h : Tried wanted stem taken s) (hstep : Step stem s after) :
    Tried wanted stem taken after := by
  cases h with
  | wanted =>
    cases hstep with
    | next hw => exact .numbered hw (Nat.le_refl 2) fun m hm hlt => absurd hm (Nat.not_le_of_lt hlt)
    | take hw => exact .done (.wanted hw)
  | @numbered n hw hn hbefore =>
    cases hstep with
    | next hm =>
      refine .numbered hw (Nat.le_succ_of_le hn) fun m hle hlt => ?_
      rcases Nat.lt_succ_iff_lt_or_eq.mp hlt with hlt | rfl
      · exact hbefore m hle hlt
      · exact hm
    | take hfree => exact .done (.numbered hw hn hfree hbefore)
  | done => cases hstep

theorem Tried.run {s after : NameSearch} (h : Tried wanted stem taken s)
    (hrun : Relation.ReflTransGen (Step stem) s after) : Tried wanted stem taken after := by
  induction hrun with
  | refl => exact h
  | tail _ hstep ih => exact ih.step hstep

/-- **The search ends with the first free name**, and takes nothing else. -/
theorem claims_iff {name : String} {after : List String} :
    Claims wanted stem taken name after ↔ name = firstFree wanted stem taken ∧ after = name :: taken := by
  have hends {name : String} {after : List String} (h : Claims wanted stem taken name after) :
      name = firstFree wanted stem taken ∧ after = name :: taken := by
    cases Tried.wanted.run h with
    | done hfirst => exact ⟨(firstFree_eq_iff.mpr hfirst).symm, rfl⟩
  refine ⟨hends, ?_⟩
  rintro ⟨rfl, rfl⟩
  obtain ⟨name, after, hrun⟩ := exists_done stem (.trying wanted 2 taken)
  obtain ⟨rfl, rfl⟩ := hends hrun
  exact hrun

end Tried

end NameSearch

open NameSearch in
/-- **Names are claimed by a search that ends**: there is no endless one, whatever the names that are taken.  The
search for the name of a type, whose numbers come right after it, and that for the identifier of a field, whose
numbers come after an underscore and without the mark of a raw one, end with the names that the declarations give,
and with these taken besides.  Such a name was not taken; it is the wanted one if that is free, and otherwise the one
with the smallest number from two on that is. -/
theorem names_claimed (wanted : String) :
    (∀ stem, WellFounded fun after before => NameSearch.Step stem before after) ∧
    (∀ (s : Slots) name after, Claims wanted wanted s.taken name after ↔
      name = freeType wanted s.taken ∧ after = (s.claim wanted).taken) ∧
    (∀ taken name after, Claims wanted (unmarked wanted ++ "_") taken name after ↔
      name = freeField wanted taken ∧ after = freeField wanted taken :: taken) ∧
    ∀ taken, FirstFree wanted wanted taken (freeType wanted taken) ∧ freeType wanted taken ∉ taken ∧
      FirstFree wanted (unmarked wanted ++ "_") taken (freeField wanted taken) ∧ freeField wanted taken ∉ taken := by
  refine ⟨wellFounded_step, fun s name after => ?_, fun taken name after => ?_, fun taken => ?_⟩
  · rw [claims_iff]
    exact and_congr_right fun h => h ▸ Iff.rfl
  · rw [claims_iff]
    exact and_congr_right fun h => h ▸ Iff.rfl
  · exact ⟨firstFree_isFirst _ _ _, firstFree_notMem _ _ _, firstFree_isFirst _ _ _, firstFree_notMem _ _ _⟩

/-- Numbers that are taken already are passed over. -/
example : freeField "r#type" ["type_3", "r#type", "type_2"] = "type_4" ∧
    freeType "Root" ["Root2", "Root", "Root4"] = "Root3" := by decide

end JsonShape
