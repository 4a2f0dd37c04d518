import JsonShape.Proofs.CommandLine.Check
import Mathlib.Data.List.Induction
import Mathlib.Data.Nat.Find

/-!
# The sources that are kept

Of all that some inputs name, one after the other, a check keeps what names a path for the first time
(`KeepsFirsts`): it stands under its own label, in the order in which it was named, and no path is lost.  Inputs
fail if one of them is a pattern that cannot be read, that meets a directory which cannot be read, or that matches
nothing (`FileTree.Fails`).  That is a matter of the input alone, so a pattern that only matches what was listed
before does not fail.
-/

namespace JsonShape

/-- Two texts of the same path: they have the same components. -/
def SamePath (path other : String) : Prop := PathText.components path = PathText.components other

/-! ## Listing each path once -/

/-- The source at a place, whose path no source before it has. -/
def FirstAt (named : List Source) (i : Nat) (source : Source) : Prop :=
  named[i]? = some source ∧ ∀ other ∈ named.take i, ¬ SamePath other.path source.path

/-- The second list is the first one without the sources of a path that was there before. -/
def KeepsFirsts (named kept : List Source) : Prop :=
  ∃ places : List Nat, places.Pairwise (· < ·) ∧ List.Forall₂ (FirstAt named) places kept ∧
    ∀ i source, FirstAt named i source → i ∈ places

section Firsts

variable {named kept : List Source} {source last : Source} {i : Nat}

theorem FirstAt.lt_length (h : FirstAt named i source) : i < named.length :=
  (List.getElem?_eq_some_iff.mp h.1).1

/-- What comes later does not matter for a place before it. -/
theorem firstAt_concat_of_lt (h : i < named.length) :
    FirstAt (named ++ [last]) i source ↔ FirstAt named i source := by
  rw [FirstAt, FirstAt, List.getElem?_append_left h, List.take_append_of_le_length (Nat.le_of_lt h)]

theorem FirstAt.concat (h : FirstAt named i source) : FirstAt (named ++ [last]) i source :=
  (firstAt_concat_of_lt h.lt_length).mpr h

theorem firstAt_concat_length :
    FirstAt (named ++ [last]) named.length source ↔
      last = source ∧ ∀ other ∈ named, ¬ SamePath other.path source.path := by
  rw [FirstAt, List.getElem?_concat_length, List.take_left, Option.some.injEq]

/-- What is first in a longer list is first in the list, or it is the last source and its path is new. -/
theorem FirstAt.of_concat (h : FirstAt (named ++ [last]) i source) :
    FirstAt named i source ∨ i = named.length ∧ ∀ other ∈ named, ¬ SamePath other.path last.path := by
  have hi : i < named.length + 1 := by simpa using h.lt_length
  rcases Nat.lt_succ_iff_lt_or_eq.mp hi with hi | rfl
  · exact .inl ((firstAt_concat_of_lt hi).mp h)
  · obtain ⟨rfl, hnew⟩ := firstAt_concat_length.mp h
    exact .inr ⟨rfl, hnew⟩

/-- Every path is named a first time. -/
theorem exists_firstAt (h : source ∈ named) :
    ∃ i first, FirstAt named i first ∧ SamePath first.path source.path := by
  classical
  have hnamed : ∃ i : Nat, ∃ other, named[i]? = some other ∧ SamePath other.path source.path := by
    obtain ⟨i, hi⟩ := List.mem_iff_getElem?.mp h
    exact ⟨i, source, hi, rfl⟩
  -- the first place of the path is the least one
  obtain ⟨first, hfirst, hsame⟩ := Nat.find_spec hnamed
  refine ⟨Nat.find hnamed, first, ⟨hfirst, fun other hother hpath => ?_⟩, hsame⟩
  obtain ⟨j, hj⟩ := List.mem_iff_getElem?.mp hother
  rw [List.getElem?_take, Option.ite_none_right_eq_some] at hj
  exact Nat.find_min hnamed hj.1 ⟨other, hj.2, hpath.trans hsame⟩

theorem KeepsFirsts.mem (h : KeepsFirsts named kept) (hs : source ∈ kept) : source ∈ named := by
  obtain ⟨places, -, hkept, -⟩ := h
  obtain ⟨i, -, hi⟩ := exists_of_forall₂ hkept.flip hs
  exact List.mem_of_getElem? hi.1

/-- No path is lost. -/
theorem KeepsFirsts.exists_samePath (h : KeepsFirsts named kept) (hs : source ∈ named) :
    ∃ first ∈ kept, SamePath first.path source.path := by
  obtain ⟨places, -, hkept, hall⟩ := h
  obtain ⟨i, first, hfirst, hsame⟩ := exists_firstAt hs
  obtain ⟨other, hother, hi⟩ := exists_of_forall₂ hkept (hall i first hfirst)
  obtain rfl : first = other := Option.some.inj (hfirst.1.symm.trans hi.1)
  exact ⟨first, hother, hsame⟩

/-- No path is kept twice. -/
theorem KeepsFirsts.pairwise (h : KeepsFirsts named kept) :
    kept.Pairwise fun source other => ¬ SamePath source.path other.path := by
  obtain ⟨places, hordered, hkept, -⟩ := h
  induction hkept with
  | nil => exact .nil
  | cons hfirst hrest ih =>
    obtain ⟨hafter, hordered⟩ := List.pairwise_cons.mp hordered
    refine .cons (fun other hother => ?_) (ih hordered)
    obtain ⟨j, hj, hat⟩ := exists_of_forall₂ hrest.flip hother
    have htake := List.getElem?_take_of_lt (l := named) (hafter j hj)
    exact hat.2 _ (List.mem_of_getElem? (htake.trans hfirst.1))

theorem addSource_of_samePath {other : Source} (hother : other ∈ kept)
    (hsame : SamePath other.path last.path) : addSource kept last = kept := by
  have hany : (kept.any fun other => PathText.components other.path == PathText.components last.path) = true :=
    List.any_eq_true.mpr ⟨other, hother, beq_iff_eq.mpr hsame⟩
  exact if_pos hany

theorem addSource_of_new (h : ∀ other ∈ kept, ¬ SamePath other.path last.path) :
    addSource kept last = kept ++ [last] := by
  refine if_neg fun hany => ?_
  obtain ⟨other, hother, hsame⟩ := List.any_eq_true.mp hany
  exact h other hother (beq_iff_eq.mp hsame)

/-- One more source is kept if its path is new. -/
theorem KeepsFirsts.addSource (h : KeepsFirsts named kept) :
    KeepsFirsts (named ++ [last]) (addSource kept last) := by
  obtain ⟨places, hordered, hkept, hall⟩ := id h
  have hbefore : List.Forall₂ (FirstAt (named ++ [last])) places kept := hkept.imp fun _ _ => FirstAt.concat
  -- the new one is compared with those kept; they stand for all that were named
  by_cases hnew : ∀ other ∈ kept, ¬ SamePath other.path last.path
  · rw [addSource_of_new hnew]
    have hlast : FirstAt (named ++ [last]) named.length last := by
      refine firstAt_concat_length.mpr ⟨rfl, fun other hother hsame => ?_⟩
      obtain ⟨first, hfirst, hpath⟩ := h.exists_samePath hother
      exact hnew first hfirst (hpath.trans hsame)
    refine ⟨places ++ [named.length], ?_, List.rel_append hbefore (.cons hlast .nil), fun i source hi => ?_⟩
    · refine List.pairwise_append.mpr ⟨hordered, List.pairwise_singleton .., fun i hi j hj => ?_⟩
      obtain ⟨source, -, hsource⟩ := exists_of_forall₂ hkept hi
      exact List.mem_singleton.mp hj ▸ hsource.lt_length
    · rcases hi.of_concat with hi | ⟨rfl, -⟩
      · exact List.mem_append_left _ (hall i source hi)
      · exact List.mem_append_right _ (List.mem_singleton_self _)
  · push Not at hnew
    obtain ⟨other, hother, hsame⟩ := hnew
    rw [addSource_of_samePath hother hsame]
    refine ⟨places, hordered, hbefore, fun i source hi => ?_⟩
    rcases hi.of_concat with hi | ⟨-, hnone⟩
    · exact hall i source hi
    · exact absurd hsame (hnone other (h.mem hother))

/-- Adding sources one by one keeps the first ones. -/
theorem keepsFirsts_foldl (named : List Source) : KeepsFirsts named (named.foldl addSource []) := by
  induction named using List.reverseRecOn with
  | nil => exact ⟨[], .nil, .nil, fun i source hi => absurd hi.lt_length (Nat.not_lt_zero i)⟩
  | append_singleton named last ih =>
    rw [List.foldl_concat]
    exact ih.addSource

end Firsts

/-! ## What inputs name -/

/-- A source of an input: a path under its own text, or a match of a pattern under the path below the fixed
directory. -/
inductive FileTree.Leads (tree : FileTree) (input : String) : Source → Prop
  | path (h : fixedDirectory? input = none) : Leads tree input ⟨input, input⟩
  | pattern {directory : String} {pattern : PathPattern} {paths : List String} {path : String}
      (h : fixedDirectory? input = some directory) (hp : PathPattern.ofText input = .ok pattern)
      (hm : pattern.paths tree = .ok paths) (hpath : path ∈ paths) :
      Leads tree input (sourceOfMatch directory path)

/-- Why an input names nothing: it is a pattern that is malformed, that meets a directory which cannot be read, or
that nothing matches. -/
inductive FileTree.Fails (tree : FileTree) (input : String) : Prop
  | malformed {directory : String} {fault : BadPattern} (h : fixedDirectory? input = some directory)
      (hp : PathPattern.ofText input = .error fault)
  | unreadable {directory : String} {pattern : PathPattern} {fault : UnreadableDirectory}
      (h : fixedDirectory? input = some directory) (hp : PathPattern.ofText input = .ok pattern)
      (hm : pattern.paths tree = .error fault)
  | unmatched {directory : String} {pattern : PathPattern} (h : fixedDirectory? input = some directory)
      (hp : PathPattern.ofText input = .ok pattern) (hm : pattern.paths tree = .ok [])

section Inputs

variable {tree : FileTree} {input : String} {named : List Source} {source : Source}

theorem FileTree.Names.mem_iff (h : tree.Names input named) : source ∈ named ↔ tree.Leads input source := by
  cases h with
  | path hpath =>
    rw [List.mem_singleton]
    constructor
    · rintro rfl
      exact .path hpath
    · -- the same input has the same fixed directory, pattern and matches
      intro hleads
      cases hleads with
      | path => rfl
      | pattern hdirectory => cases hpath.symm.trans hdirectory
  | pattern hdirectory hpattern hpaths =>
    rw [List.mem_map]
    constructor
    · rintro ⟨path, hpath, rfl⟩
      exact .pattern hdirectory hpattern hpaths hpath
    · intro hleads
      cases hleads with
      | path hnone => cases hnone.symm.trans hdirectory
      | pattern hdirectory' hpattern' hpaths' hpath =>
        cases hdirectory.symm.trans hdirectory'
        cases hpattern.symm.trans hpattern'
        cases hpaths.symm.trans hpaths'
        exact ⟨_, hpath, rfl⟩

theorem FileTree.exists_names_or_fails (tree : FileTree) (input : String) :
    (∃ named, tree.Names input named) ∨ tree.Fails input := by
  cases hdirectory : fixedDirectory? input with
  | none => exact .inl ⟨_, .path hdirectory⟩
  | some directory =>
    cases hpattern : PathPattern.ofText input with
    | error fault => exact .inr (.malformed hdirectory hpattern)
    | ok pattern =>
      cases hpaths : pattern.paths tree with
      | error fault => exact .inr (.unreadable hdirectory hpattern hpaths)
      | ok paths =>
        by_cases hempty : paths = []
        · exact .inr (.unmatched hdirectory hpattern (hempty ▸ hpaths))
        · exact .inl ⟨_, .pattern hdirectory hpattern hpaths hempty⟩

theorem FileTree.Fails.not_names (h : tree.Fails input) : ¬ tree.Names input named := by
  intro hnames
  cases hnames with
  | path hnone => cases h with
    | malformed hdirectory | unreadable hdirectory | unmatched hdirectory => cases hnone.symm.trans hdirectory
  | pattern hdirectory hpattern hpaths hne => cases h with
    | malformed _ hfault => cases hpattern.symm.trans hfault
    | unreadable _ hpattern' hfault =>
      cases hpattern.symm.trans hpattern'
      cases hpaths.symm.trans hfault
    | unmatched _ hpattern' hnone =>
      cases hpattern.symm.trans hpattern'
      cases hpaths.symm.trans hnone
      exact hne rfl

theorem FileTree.not_exists_names_iff : (¬ ∃ named, tree.Names input named) ↔ tree.Fails input :=
  ⟨fun h => (tree.exists_names_or_fails input).resolve_left h, fun h ⟨_, hnames⟩ => h.not_names hnames⟩

/-- What is named by some of the inputs, in whichever place. -/
theorem mem_flatten_names_iff {inputs : List String} {all : List (List Source)}
    (h : List.Forall₂ tree.Names inputs all) :
    source ∈ all.flatten ↔ ∃ input ∈ inputs, tree.Leads input source := by
  rw [List.mem_flatten]
  constructor
  · rintro ⟨named, hnamed, hs⟩
    obtain ⟨input, hinput, hnames⟩ := exists_of_forall₂ h.flip hnamed
    exact ⟨input, hinput, hnames.mem_iff.mp hs⟩
  · rintro ⟨input, hinput, hleads⟩
    obtain ⟨named, hnamed, hnames⟩ := exists_of_forall₂ h hinput
    exact ⟨named, hnamed, hnames.mem_iff.mpr hleads⟩

end Inputs

/-- **No input is lost and the order is kept**: the sources of some inputs are, of all that the inputs name one
after the other, those that name a path for the first time, with their labels.  So each path that an input gives
or matches is that of a source, and each source is one that an input leads to.  There are no sources just if one
of the inputs fails by itself. -/
theorem expandInputs_keeps_firsts (tree : FileTree) (inputs : List String) :
    (∀ sources, expandInputs tree inputs = .ok sources →
      (∃ named, List.Forall₂ tree.Names inputs named ∧ KeepsFirsts named.flatten sources) ∧
      (∀ input ∈ inputs, ∀ source, tree.Leads input source →
        ∃ first ∈ sources, SamePath first.path source.path) ∧
      ∀ source ∈ sources, ∃ input ∈ inputs, tree.Leads input source) ∧
    ((∃ trouble, expandInputs tree inputs = .error trouble) ↔ ∃ input ∈ inputs, tree.Fails input) := by
  constructor
  · intro sources h
    obtain ⟨named, hnamed, rfl⟩ := expandInputs_eq_ok_iff.mp h
    have hkept := keepsFirsts_foldl named.flatten
    refine ⟨⟨named, hnamed, hkept⟩, fun input hinput source hleads => ?_, fun source hs => ?_⟩
    · exact hkept.exists_samePath ((mem_flatten_names_iff hnamed).mpr ⟨input, hinput, hleads⟩)
    · exact (mem_flatten_names_iff hnamed).mp (hkept.mem hs)
  · rw [exists_error_iff, exists_expandInputs_iff]
    simp only [not_forall, exists_prop, FileTree.not_exists_names_iff]

/-- The path is listed under the first text for it, and the pattern does not fail for having nothing to add. -/
example : (expandInputs ⟨.directory [("in", .directory [("a.json", .file ⟨#[]⟩)])], []⟩
    ["in//a.json", "in/a.json", "in/*.json"]).toOption = some [⟨"in//a.json", "in//a.json"⟩] := by
  decide +kernel

end JsonShape
