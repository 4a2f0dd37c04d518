import JsonShape.Files.Glob
import JsonShape.Proofs.Files.Components
import JsonShape.Proofs.Files.Trees

/-!
# What the expansion of a pattern keeps

The components of a pattern lead from one path to others by putting names after it: the name of a file, a dot name,
or a component without wildcards.  What holds of a path and is kept by each of these steps (`PathPattern.Kept`) holds
of all paths that the components lead to (`PathPattern.Kept.leads`).
-/

namespace JsonShape.PathPattern

theorem mem_descendantsOf {path : String} {entries : List (String × Entry)} {found : String × String × Entry} :
    found ∈ descendantsOf path entries ↔ ∃ name entry, (name, entry) ∈ entries ∧
      (found = (below path name, name, entry) ∨ found ∈ descendants (below path name) entry) := by
  induction entries with
  | nil => simp [descendantsOf]
  | cons first rest ih =>
    obtain ⟨key, value⟩ := first
    rw [descendantsOf, List.mem_cons, List.mem_append, ih, ← or_assoc]
    constructor
    · rintro (h | ⟨name, entry, he, h⟩)
      · exact ⟨key, value, List.mem_cons_self, h⟩
      · exact ⟨name, entry, List.mem_cons_of_mem _ he, h⟩
    · rintro ⟨name, entry, he, h⟩
      rcases List.mem_cons.mp he with he | he
      · cases he
        exact .inl h
      · exact .inr ⟨name, entry, he, h⟩

theorem mem_dots_of_matchedDots {wildcards : List Wildcard} {name : String} (h : name ∈ matchedDots wildcards) :
    name ∈ dots := by
  unfold matchedDots at h
  split at h
  · exact List.mem_of_mem_filter h
  · cases h

theorem notMem_of_mem_dots {name : String} (h : name ∈ dots) : '/' ∉ name.toList := by
  have hdots : ∀ dot ∈ dots, '/' ∉ dot.toList := by decide
  exact hdots name h

/-- The components of the path of a name: the name replaces the current directory. -/
theorem components_below {path name : String} (hpath : path ≠ "") (hslash : '/' ∉ name.toList)
    (hne : isHere path → name ≠ "") : PathText.components (below path name) =
      if isHere path then [name] else PathText.components path ++ if PathText.isIdle name then [] else [name] := by
  unfold below
  by_cases hhere : isHere path
  · rw [if_pos hhere, if_pos hhere, PathText.components_of_name hslash (hne hhere)]
  · rw [if_neg hhere, if_neg hhere, PathText.components_join hpath hslash]

/-! ## What is found -/

/-- All paths that are found have the property. -/
def Finds (p : String → Prop) (outcome : Except UnreadableDirectory (List String)) : Prop :=
  ∀ paths, outcome = .ok paths → ∀ path ∈ paths, p path

namespace Finds

variable {p : String → Prop} {outcome : Except UnreadableDirectory (List String)}

theorem ok {paths : List String} (h : ∀ path ∈ paths, p path) : Finds p (.ok paths) := by
  intro found hfound
  cases hfound
  exact h

theorem none : Finds p (.ok []) := ok (List.forall_mem_nil _)

theorem one {path : String} (h : p path) : Finds p (.ok [path]) := ok (List.forall_mem_singleton.mpr h)

theorem bind {α : Type} {first : Except UnreadableDirectory α} {next : α → Except UnreadableDirectory (List String)}
    (h : ∀ value, first = .ok value → Finds p (next value)) : Finds p (first >>= next) := by
  intro paths hpaths
  obtain ⟨value, hvalue, hnext⟩ := bind_eq_ok_iff.mp hpaths
  exact h value hvalue paths hnext

/-- A check afterwards can only refuse what is found. -/
theorem checked (h : Finds p outcome) (condition : Bool) (check : Except UnreadableDirectory Unit) :
    Finds p (do
      let paths ← outcome
      if condition then check
      return paths) := by
  refine .bind fun paths hpaths => ?_
  have hfound : Finds p (.ok paths) := hpaths ▸ h
  dsimp only
  split
  · exact .bind fun _ _ => hfound
  · exact hfound

/-- What several branches find has the property if what each of them finds has it. -/
theorem flatten {α : Type} {branch : α → Except UnreadableDirectory (List String)} {items : List α}
    (h : ∀ item ∈ items, Finds p (branch item)) {found : List (List String)}
    (hfound : items.mapM branch = .ok found) : ∀ path ∈ found.flatten, p path := by
  intro path hpath
  obtain ⟨paths, hpaths, hpath⟩ := List.mem_flatten.mp hpath
  obtain ⟨item, hitem, hok⟩ := exists_of_forall₂ (mapM_eq_ok_iff.mp hfound).flip hpaths
  exact h item hitem paths hok path hpath

end Finds

/-! ## Steps -/

/-- From paths with the property the components lead to paths with it. -/
def LeadsTo (p : String → Prop) (tree : FileTree) (wantsDirectory : Bool) (parts : List PatternPart) : Prop :=
  ∀ reached : Reached, p reached.path → Finds p (expand tree wantsDirectory parts reached)

/-- A property of paths that every step keeps, where the components without wildcards are all of a kind. -/
structure Kept (plain : String → Prop) (p : String → Prop) : Prop where
  fileName : ∀ {path name}, p path → IsFileName name → p (below path name)
  dots : ∀ {path name}, p path → name ∈ dots → p (PathText.join path name)
  plain : ∀ {path name}, p path → plain name → (isHere path → name ≠ "") → p (below path name)

section Plain

variable {tree : FileTree} {wantsDirectory : Bool} {name : String} {rest : List PatternPart} {reached : Reached}

/-- A component without wildcards leads to one path at most.  Nothing is at the empty text, so the name does not
replace the current directory by it. -/
theorem Finds.plain {p : String → Prop}
    (h : (isHere reached.path → name ≠ "") →
      Finds p (expand tree wantsDirectory rest (look tree (below reached.path name)))) :
    Finds p (expand tree wantsDirectory (.plain name :: rest) reached) := by
  rw [expand]
  by_cases hthere : (if name ∈ PathPattern.dots then reached.isDirectory
      else tree.pathExists (below reached.path name)) = true
  · rw [if_pos hthere]
    refine h fun hhere hempty => ?_
    rw [hempty, if_neg (by decide), below, if_pos hhere, tree.pathExists_empty] at hthere
    cases hthere
  · rw [if_neg hthere]
    exact .none

end Plain

namespace Kept

variable {plain p : String → Prop} (h : Kept plain p) {tree : FileTree} (hroot : tree.root.Proper)
  {wantsDirectory : Bool} {rest : List PatternPart}
include h

/-- What lies below a path is at paths with the property. -/
theorem descendants {entry : Entry} (hproper : entry.Proper) {path : String} (hpath : p path)
    {found : String × String × Entry} (hfound : found ∈ descendants path entry) : p found.1 := by
  induction hproper generalizing path with
  | file bytes => cases hfound
  | directory hnames _ ih =>
    obtain ⟨name, entry, he, hfound⟩ := mem_descendantsOf.mp hfound
    have hbelow := h.fileName hpath (hnames name entry he)
    rcases hfound with rfl | hfound
    · exact hbelow
    · exact ih name entry he hbelow hfound

omit h in
theorem leads_nil : LeadsTo p tree wantsDirectory [] := by
  intro reached hreached
  rw [expand]
  split
  · exact .none
  · exact .one hreached

theorem leads_plain (hrest : LeadsTo p tree wantsDirectory rest) {name : String} (hname : plain name) :
    LeadsTo p tree wantsDirectory (.plain name :: rest) :=
  fun _ hreached => .plain fun hne => hrest (look tree _) (h.plain hreached hname hne)

include hroot

theorem leads_wild (hrest : LeadsTo p tree wantsDirectory rest) (wildcards : List Wildcard) :
    LeadsTo p tree wantsDirectory (.wild wildcards :: rest) := by
  intro reached hreached
  rw [expand]
  split
  · refine .bind fun entries hentries => .bind fun fromDots hdots => .bind fun fromNames hnames => .ok ?_
    have hproper := (tree.proper_entries hroot (mapError_eq_ok_iff.mp hentries)).of_directory
    refine List.forall_mem_append.mpr ⟨Finds.flatten (fun dot hdot => ?_) hdots,
      Finds.flatten (fun (name, entry) hentry => ?_) hnames⟩
    · exact hrest (look tree _) (h.dots hreached (mem_dots_of_matchedDots hdot))
    · dsimp only
      split
      · exact hrest ⟨_, _⟩ (h.fileName hreached (hproper name entry hentry).1)
      · exact .none
  · exact .none

/-- Of the components after one for any directories, the first is matched right there. -/
theorem leads_anyDirectories (hrest : LeadsTo p tree wantsDirectory rest.tail) :
    LeadsTo p tree wantsDirectory (.anyDirectories :: rest) := by
  intro reached hreached
  rw [expand]
  split
  · refine .bind fun entries hentries => .bind fun matched hmatched => .ok ?_
    have hproper := tree.proper_entries hroot (mapError_eq_ok_iff.mp hentries)
    refine Finds.flatten (fun (inner, name, entry) hfound => ?_) hmatched
    have hinner : p inner := h.descendants hproper hreached hfound
    dsimp only
    split
    · refine Finds.checked ?_ _ _
      split
      · exact .one hinner
      · exact .none
    · split
      · exact Finds.checked (hrest ⟨_, _⟩ hinner) _ _
      · exact Finds.checked .none _ _
  · exact .none

/-- **What every step keeps holds of all that the components lead to.** -/
theorem leads (wantsDirectory : Bool) : ∀ {parts : List PatternPart}, (∀ name, .plain name ∈ parts → plain name) →
    LeadsTo p tree wantsDirectory parts
  | [], _ => leads_nil
  | .plain name :: _, hparts =>
    h.leads_plain (leads wantsDirectory fun name hn => hparts name (List.mem_cons_of_mem _ hn))
      (hparts name List.mem_cons_self)
  | .wild wildcards :: _, hparts =>
    h.leads_wild hroot (leads wantsDirectory fun name hn => hparts name (List.mem_cons_of_mem _ hn)) wildcards
  | [.anyDirectories], _ => h.leads_anyDirectories hroot leads_nil
  | .anyDirectories :: part :: _, hparts =>
    h.leads_anyDirectories hroot (leads wantsDirectory fun name hn =>
      hparts name (List.mem_cons_of_mem _ (List.mem_cons_of_mem part hn)))

end Kept

end JsonShape.PathPattern
