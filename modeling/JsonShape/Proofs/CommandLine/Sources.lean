import JsonShape.CommandLine.Inputs
import JsonShape.Proofs.Json.Steps
import Mathlib.Data.List.Forall2

/-!
# The files that inputs name

What an input names does not depend on the inputs before it (`FileTree.Names`): a path names itself, and a
pattern what it matches, which has to be something.  The sources of a check are all that its inputs name, one
after the other, without those of a path that has been listed (`expandInputs_eq_ok_iff`).
-/

namespace JsonShape

theorem explain_eq_ok_iff {α ε : Type} {message : String} {causes : ε → Trouble} {result : Except ε α}
    {value : α} : explain message causes result = .ok value ↔ result = .ok value := mapError_eq_ok_iff

/-! ## One input -/

/-- The sources that an input names by itself. -/
inductive FileTree.Names (tree : FileTree) (input : String) : List Source → Prop
  | path (h : fixedDirectory? input = none) : Names tree input [⟨input, input⟩]
  | pattern {directory : String} {pattern : PathPattern} {paths : List String}
      (h : fixedDirectory? input = some directory) (hp : PathPattern.ofText input = .ok pattern)
      (hm : pattern.paths tree = .ok paths) (hne : paths ≠ []) :
      Names tree input (paths.map (sourceOfMatch directory))

theorem expandInput_eq_ok_iff {tree : FileTree} {sources result : List Source} {input : String} :
    expandInput tree sources input = .ok result ↔
      ∃ named, tree.Names input named ∧ result = named.foldl addSource sources := by
  unfold expandInput
  constructor
  · intro h
    split at h
    · rename_i hpath
      cases h
      exact ⟨_, .path hpath, rfl⟩
    · rename_i directory hdirectory
      obtain ⟨pattern, hpattern, h⟩ := bind_eq_ok_iff.mp h
      obtain ⟨paths, hpaths, h⟩ := bind_eq_ok_iff.mp h
      -- a pattern without matches names nothing
      cases paths with
      | nil => cases h
      | cons first others =>
        cases h
        exact ⟨_, .pattern hdirectory (explain_eq_ok_iff.mp hpattern) (explain_eq_ok_iff.mp hpaths)
          (List.cons_ne_nil _ _), rfl⟩
  · rintro ⟨named, hnamed, rfl⟩
    cases hnamed with
    | path hpath => simp [hpath]
    | @pattern directory pattern paths hdirectory hpattern hpaths hne =>
      obtain ⟨first, others, rfl⟩ := List.exists_cons_of_ne_nil hne
      simp only [hdirectory]
      refine bind_eq_ok_iff.mpr ⟨pattern, explain_eq_ok_iff.mpr hpattern, ?_⟩
      exact bind_eq_ok_iff.mpr ⟨_, explain_eq_ok_iff.mpr hpaths, rfl⟩

/-! ## All inputs -/

theorem foldlM_expandInput_eq_ok_iff {tree : FileTree} {inputs : List String} {sources result : List Source} :
    inputs.foldlM (expandInput tree) sources = .ok result ↔ ∃ named,
      List.Forall₂ tree.Names inputs named ∧ result = named.flatten.foldl addSource sources := by
  induction inputs generalizing sources with
  | nil =>
    simp only [List.foldlM_nil, List.forall₂_nil_left_iff, exists_eq_left, List.flatten_nil, List.foldl_nil]
    exact ⟨fun h => (Except.ok.inj h).symm, fun h => h ▸ rfl⟩
  | cons input rest ih =>
    rw [List.foldlM_cons, bind_eq_ok_iff]
    constructor
    · rintro ⟨between, hinput, hrest⟩
      obtain ⟨named, hnamed, rfl⟩ := expandInput_eq_ok_iff.mp hinput
      obtain ⟨others, hothers, rfl⟩ := ih.mp hrest
      exact ⟨named :: others, .cons hnamed hothers, by rw [List.flatten_cons, List.foldl_append]⟩
    · rintro ⟨_, hall, rfl⟩
      obtain ⟨named, others, hnamed, hothers, rfl⟩ := List.forall₂_cons_left_iff.mp hall
      refine ⟨named.foldl addSource sources, expandInput_eq_ok_iff.mpr ⟨named, hnamed, rfl⟩, ?_⟩
      exact ih.mpr ⟨others, hothers, by rw [List.flatten_cons, List.foldl_append]⟩

/-- **The sources of some inputs** are what each of them names by itself, each path once. -/
theorem expandInputs_eq_ok_iff {tree : FileTree} {inputs : List String} {sources : List Source} :
    expandInputs tree inputs = .ok sources ↔ ∃ named,
      List.Forall₂ tree.Names inputs named ∧ sources = named.flatten.foldl addSource [] :=
  foldlM_expandInput_eq_ok_iff

/-- Inputs are expanded if each of them names something. -/
theorem exists_expandInputs_iff {tree : FileTree} {inputs : List String} :
    (∃ sources, expandInputs tree inputs = .ok sources) ↔
      ∀ input ∈ inputs, ∃ named, tree.Names input named := by
  simp only [expandInputs_eq_ok_iff]
  constructor
  · rintro ⟨sources, named, hnamed, -⟩ input hi
    obtain ⟨found, -, hfound⟩ := exists_of_forall₂ hnamed hi
    exact ⟨found, hfound⟩
  · intro h
    obtain ⟨named, hnamed⟩ := exists_forall₂ h
    exact ⟨_, named, hnamed, rfl⟩

end JsonShape
