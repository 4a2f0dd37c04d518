import JsonShape.Proofs.Files.Expansion
import JsonShape.Proofs.Files.PatternParts

/-!
# The paths that match a pattern

A pattern without a piece for the directory above leads only to tidy paths (`Tidy`): such a path is the current
directory, leads up from it, or begins with a name, so a point at its front is never before a name.  Every step
of `PathPattern.expand` keeps that, since a name put after the current directory replaces it
(`PathPattern.kept_tidy`).
-/

namespace JsonShape

open PathText
open PathPattern (isHere)

/-! ## Tidy paths -/

/-- A path with a point at its front only if it is the current directory or leads up from it. -/
inductive Tidy (path : String) : Prop
  | here (h : components path = ["."])
  | above {rest : List String} (h : components path = "." :: ".." :: rest)
  | within {name : String} {rest : List String} (h : components path = name :: rest) (hname : name ∉ [".", ".."])

namespace Tidy

variable {path name : String}

theorem components_ne_nil (h : Tidy path) : components path ≠ [] := by
  intro hnil
  cases h with
  | here h => cases hnil.symm.trans h
  | above h => cases hnil.symm.trans h
  | within h => cases hnil.symm.trans h

theorem ne_empty (h : Tidy path) : path ≠ "" := fun e => h.components_ne_nil (e ▸ rfl)

/-- A path keeps its front when something comes after it. -/
theorem of_append (h : Tidy path) (hhere : ¬ isHere path) {longer : String} {more : List String}
    (hlonger : components longer = components path ++ more) : Tidy longer := by
  cases h with
  | here h => exact absurd (beq_iff_eq.mpr h) hhere
  | above h => exact .above (by rw [hlonger, h, List.cons_append, List.cons_append])
  | within h hname => exact .within (by rw [hlonger, h, List.cons_append]) hname

theorem join_dots (h : Tidy path) (hname : name ∈ PathPattern.dots) : Tidy (join path name) := by
  have hjoin := components_join h.ne_empty (PathPattern.notMem_of_mem_dots hname)
  by_cases hhere : isHere path
  · rw [beq_iff_eq.mp hhere] at hjoin
    rcases List.mem_pair.mp hname with rfl | rfl
    · exact .above hjoin
    · exact .here hjoin
  · exact h.of_append hhere hjoin

theorem below (h : Tidy path) (hslash : '/' ∉ name.toList) (hup : name ≠ "..")
    (hne : isHere path → name ≠ "") : Tidy (PathPattern.below path name) := by
  have hcomponents := PathPattern.components_below h.ne_empty hslash hne
  by_cases hhere : isHere path
  · rw [if_pos hhere] at hcomponents
    by_cases hpoint : name = "."
    · exact .here (hpoint ▸ hcomponents)
    · exact .within hcomponents (by simp [hpoint, hup])
  · rw [if_neg hhere] at hcomponents
    exact h.of_append hhere hcomponents

theorem below_fileName (h : Tidy path) (hname : IsFileName name) : Tidy (PathPattern.below path name) := by
  obtain ⟨hne, hslash⟩ := hname
  exact h.below hslash (fun e => hne (by simp [e])) fun _ e => hne (by simp [e])

end Tidy

namespace PathPattern

/-- Steps that do not lead up keep paths tidy. -/
theorem kept_tidy : Kept (fun name => '/' ∉ name.toList ∧ name ≠ "..") Tidy where
  fileName h hname := h.below_fileName hname
  dots h hname := h.join_dots hname
  plain h hname hne := h.below hname.1 hname.2 hne

/-- The paths that match a pattern without a piece for the directory above. -/
theorem tidy_paths {tree : FileTree} (hroot : tree.root.Proper) {text : String} (hup : ".." ∉ PathText.pieces text)
    {pattern : PathPattern} (hpattern : ofText text = .ok pattern) {paths : List String}
    (hpaths : pattern.paths tree = .ok paths) : ∀ path ∈ paths, Tidy path := by
  have hparts : ∀ name, .plain name ∈ pattern.parts → '/' ∉ name.toList ∧ name ≠ ".." := by
    intro name hname
    have hpiece := mem_pieces_of_plain hpattern hname
    exact ⟨notMem_of_mem_pieces hpiece, fun e => hup (e ▸ hpiece)⟩
  have horigin : Tidy pattern.origin := by
    rcases origin_cases hpattern with horigin | horigin
    · rw [horigin]
      exact .within (show components "/" = ["/"] from rfl) (by decide)
    · rw [horigin]
      exact .here rfl
  have hsorted : tree.sorted.root.Proper := hroot.sorted
  exact kept_tidy.leads hsorted _ hparts (look tree.sorted _) horigin paths hpaths

end PathPattern

end JsonShape
