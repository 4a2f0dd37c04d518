import JsonShape.CommandLine.Inputs
import JsonShape.Proofs.Files.Expansion
import JsonShape.Proofs.Files.PatternParts
import JsonShape.Proofs.Files.Remainder
import Mathlib.Data.List.DropRight

/-!
# The fixed directory of a pattern

What has no wildcards is no pattern (`fixedDirectory?_eq_none_iff`).

The fixed directory is cut from the text of a pattern, and the matches are found component by component.  The pieces
of the directory have no wildcards, so they are the first components of the pattern (`exists_fixed_parts`).  These
lead along the names of the directory (`AlongNames`), and what comes after them only adds names.  So every match begins
with the names of the fixed directory (`names_prefix_of_match`).
-/

namespace JsonShape

open PathText
open PathPattern (isHere LeadsTo Kept)

/-! ## The text -/

/-- **An input is a path just if it has no wildcards**; every other input is a pattern. -/
theorem fixedDirectory?_eq_none_iff {input : String} :
    fixedDirectory? input = none ↔ '*' ∉ input.toList ∧ '?' ∉ input.toList ∧ '[' ∉ input.toList := by
  -- the part before the first wildcard is as long as the input just if there is no wildcard
  have hfixed : (input.toList.takeWhile fun c => !isWildcardChar c).length = input.toList.length ↔
      ∀ c ∈ input.toList, ¬ isWildcardChar c = true := by
    constructor
    · intro hl c hc
      have hall := List.takeWhile_eq_self_iff.mp ((List.takeWhile_prefix _).eq_of_length hl) c hc
      simpa using hall
    · intro h
      rw [List.takeWhile_eq_self_iff.mpr fun c hc => by simpa using h c hc]
  have hwild (c : Char) : isWildcardChar c = true ↔ c = '*' ∨ c = '?' ∨ c = '[' := by
    simp [isWildcardChar, or_assoc]
  have hnone : fixedDirectory? input = none ↔ ∀ c ∈ input.toList, ¬ isWildcardChar c = true := by
    rw [← hfixed]
    unfold fixedDirectory?
    simp
  rw [hnone]
  simp only [hwild, not_or]
  constructor
  · intro h
    exact ⟨fun hm => (h _ hm).1 rfl, fun hm => (h _ hm).2.1 rfl, fun hm => (h _ hm).2.2 rfl⟩
  · rintro ⟨hstar, hmark, hbracket⟩ c hc
    exact ⟨ne_of_mem_of_not_mem hc hstar, ne_of_mem_of_not_mem hc hmark, ne_of_mem_of_not_mem hc hbracket⟩

/-- The fixed directory is empty, or it ends with the last separator before the first wildcard. -/
theorem fixedDirectory?_cases {input directory : String} (h : fixedDirectory? input = some directory) :
    directory = "" ∨ ∃ before after, directory.toList = before ++ ['/'] ∧ input.toList = before ++ '/' :: after ∧
      ∀ c ∈ before, isWildcardChar c = false := by
  unfold fixedDirectory? at h
  dsimp only at h
  split at h
  · cases h
  · generalize hfixed : input.toList.takeWhile (fun c => !isWildcardChar c) = fixed at h
    have hplain : ∀ c ∈ fixed, isWildcardChar c = false := by
      intro c hc
      rw [← hfixed] at hc
      simpa using List.all_eq_true.mp List.all_takeWhile c hc
    obtain rfl : String.ofList (fixed.rdropWhile (· != '/')) = directory := Option.some.inj h
    obtain ⟨others, hothers⟩ := List.rdropWhile_prefix (· != '/') (l := fixed)
    obtain ⟨more, hmore⟩ : fixed <+: input.toList := hfixed ▸ List.takeWhile_prefix _
    have hlast := List.rdropWhile_last_not (· != '/') fixed
    -- what is left after the last name is dropped is empty or ends with a separator
    generalize fixed.rdropWhile (· != '/') = text at hothers hlast
    rcases List.eq_nil_or_concat' text with rfl | ⟨before, c, rfl⟩
    · exact .inl rfl
    · obtain rfl : c = '/' := by simpa using hlast
      refine .inr ⟨before, others ++ more, String.toList_ofList, ?_, fun c hc => hplain c ?_⟩
      · rw [← hmore, ← hothers, List.append_assoc, List.append_assoc, List.singleton_append]
      · rw [← hothers, List.append_assoc]
        exact List.mem_append_left _ hc

/-! ## The components -/

/-- A text without wildcards is read as its characters. -/
theorem Wildcard.readFrom_of_plain {text : List Char} (h : ∀ c ∈ text, isWildcardChar c = false) {fuel index : Nat}
    {before : Option Char} (hfuel : text.length ≤ fuel) : readFrom fuel index before text = .ok (text.map .char) := by
  induction text generalizing fuel index before with
  | nil => cases fuel <;> rfl
  | cons c rest ih =>
    obtain ⟨fuel, rfl⟩ := Nat.exists_eq_succ_of_ne_zero (Nat.ne_of_gt (Nat.lt_of_lt_of_le (Nat.succ_pos _) hfuel))
    obtain ⟨hc, hrest⟩ := List.forall_mem_cons.mp h
    simp only [isWildcardChar, Bool.or_eq_false_iff, beq_eq_false_iff_ne] at hc
    obtain ⟨⟨hstar, hmark⟩, hbracket⟩ := hc
    rw [readFrom, if_neg hmark, if_neg hstar, if_neg hbracket, ih hrest (Nat.le_of_succ_le_succ hfuel)]
    rfl

theorem Wildcard.plain?_map_char (text : List Char) : plain? (text.map .char) = some text := by
  induction text with
  | nil => rfl
  | cons c rest ih => rw [List.map_cons, plain?, ih, Option.map_some]

/-- The component of a piece without wildcards. -/
theorem PatternPart.ofWildcards_of_plain {piece : List Char} (h : ∀ c ∈ piece, isWildcardChar c = false)
    {wildcards : List Wildcard} (hread : Wildcard.ofText piece = .ok wildcards) :
    ofWildcards wildcards = .plain (String.ofList piece) := by
  rw [Wildcard.ofText, Wildcard.readFrom_of_plain h (Nat.le_succ _)] at hread
  cases hread
  rw [ofWildcards, Wildcard.plain?_map_char]

theorem PatternPart.collapse_plain_append (names : List String) (rest : List PatternPart) :
    collapse (names.map .plain ++ rest) = names.map .plain ++ collapse rest := by
  induction names with
  | nil => rfl
  | cons name more ih =>
    rw [List.map_cons, List.cons_append, collapse, ih, List.cons_append]
    rintro _ ⟨⟩

/-- The components of pieces without wildcards. -/
theorem PatternPart.map_ofWildcards_of_plain {pieces : List (List Char)} {read : List (List Wildcard)}
    (hread : List.Forall₂ (fun piece wildcards => Wildcard.ofText piece = .ok wildcards) pieces read)
    (h : ∀ piece ∈ pieces, ∀ c ∈ piece, isWildcardChar c = false) :
    read.map ofWildcards = (pieces.map String.ofList).map .plain := by
  induction hread with
  | nil => rfl
  | cons hfirst _ ih =>
    obtain ⟨hplain, hothers⟩ := List.forall_mem_cons.mp h
    rw [List.map_cons, ofWildcards_of_plain hplain hfirst, ih hothers]
    rfl

/-- An empty piece at the end does not count, but the pieces before others stay. -/
theorem PathPattern.exists_piecesOf_eq_append {text : List Char} {fixed more : List (List Char)}
    (h : PathText.piecesOf text = fixed ++ more) (hmore : more ≠ []) :
    ∃ rest, PathPattern.piecesOf text = fixed ++ rest := by
  unfold PathPattern.piecesOf
  dsimp only
  rw [h]
  split
  · exact ⟨more.dropLast, List.dropLast_append_of_ne_nil hmore⟩
  · exact ⟨more, rfl⟩

/-- The pieces of the fixed directory are the first components of a pattern.  Those that count are the names of the
directory, after the separator of an absolute one. -/
theorem exists_fixed_parts {input directory : String} {before after : List Char}
    (hdirectory : directory.toList = before ++ ['/']) (hinput : input.toList = before ++ '/' :: after)
    (hplain : ∀ c ∈ before, isWildcardChar c = false) {pattern : PathPattern}
    (h : PathPattern.ofText input = .ok pattern) :
    ∃ (fixed : List String) (rest : List PatternPart), pattern.parts = fixed.map .plain ++ rest ∧
      names directory = names pattern.origin ++ fixed.filter fun piece => !isIdle piece := by
  obtain ⟨_, -, h⟩ := bind_eq_ok_iff.mp h
  obtain ⟨read, hread, h⟩ := bind_eq_ok_iff.mp h
  cases h
  have habsolute : isAbsolute directory = isAbsolute input := by
    rw [isAbsolute, isAbsolute, hdirectory, hinput]
    cases before <;> rfl
  have hfront := piecesOf_eq_front input
  rw [hinput, piecesOf_append_separator, ← hinput] at hfront
  -- an absolute pattern is read without the empty piece before its first separator
  obtain ⟨fixed, hbefore⟩ : (if isAbsolute input then [[]] else []) <+: piecesOf before := by
    refine List.prefix_of_prefix_length_le ⟨_, hfront.symm⟩ (List.prefix_append _ _) ?_
    have hlength := List.length_pos_iff.mpr (piecesOf_ne_nil before)
    split
    · exact hlength
    · exact Nat.zero_le _
  rw [← hbefore, List.append_assoc, List.append_cancel_left_eq] at hfront
  obtain ⟨rest, hrest⟩ := PathPattern.exists_piecesOf_eq_append hfront.symm (piecesOf_ne_nil after)
  rw [hrest] at hread
  obtain ⟨first, others, rfl, hfirst, -⟩ := exists_append_of_forall₂ (mapM_eq_ok_iff.mp hread)
  refine ⟨fixed.map String.ofList, PatternPart.collapse (others.map PatternPart.ofWildcards), ?_, ?_⟩
  · dsimp only
    rw [List.map_append, PatternPart.map_ofWildcards_of_plain hfirst, PatternPart.collapse_plain_append]
    intro piece hpiece c hc
    exact hplain c (mem_of_mem_piecesOf (hbefore ▸ List.mem_append_right _ hpiece) hc).1
  · rw [names_eq, habsolute, pieces, hdirectory, piecesOf_append_separator, ← hbefore]
    have hidle : isIdle (String.ofList []) = true := rfl
    cases isAbsolute input
    · simp [piecesOf, hidle, show names "." = [] from rfl]
    · simp [piecesOf, hidle, show names "/" = ["/"] from rfl]

/-! ## Along the directory -/

/-- A path that goes along some names, and is the current directory if there are none. -/
inductive AlongNames : List String → String → Prop
  | here {path : String} (h : components path = ["."]) : AlongNames [] path
  | within {first path : String} {rest : List String} (h : components path = first :: rest)
      (hpoint : "." ∉ first :: rest) : AlongNames (first :: rest) path

namespace AlongNames

variable {before : List String} {path name : String}

theorem components_ne_nil (h : AlongNames before path) : components path ≠ [] := by
  cases h with
  | here h => exact h ▸ List.cons_ne_nil _ _
  | within h => exact h ▸ List.cons_ne_nil _ _

theorem isPrefix (h : AlongNames before path) : before <+: components path := by
  cases h with
  | here => exact List.nil_prefix
  | within h => exact h ▸ List.prefix_refl _

/-- A name leads further, unless it counts for nothing. -/
theorem below (h : AlongNames before path) (hslash : '/' ∉ name.toList) (hne : isHere path → name ≠ "") :
    AlongNames (before ++ [name].filter fun piece => !isIdle piece) (PathPattern.below path name) := by
  have hempty : path ≠ "" := fun e => h.components_ne_nil (e ▸ rfl)
  have hcomponents := PathPattern.components_below hempty hslash hne
  cases h with
  | here h =>
    have hhere : isHere path := beq_iff_eq.mpr h
    rw [if_pos hhere] at hcomponents
    by_cases hpoint : name = "."
    · subst hpoint
      exact .here hcomponents
    · have hcounts : isIdle name = false := by simp [isIdle, hne hhere, hpoint]
      rw [List.nil_append, List.filter_cons_of_pos (by simp [hcounts]), List.filter_nil]
      exact .within hcomponents (by simpa using Ne.symm hpoint)
  | within h hpoint =>
    have hhere : ¬ isHere path := by
      intro hhere
      obtain ⟨rfl, -⟩ := List.cons.inj (h.symm.trans (beq_iff_eq.mp hhere))
      exact hpoint List.mem_cons_self
    rw [if_neg hhere, h] at hcomponents
    have hname : (if isIdle name then [] else [name]) = [name].filter fun piece => !isIdle piece := by
      cases hidle : isIdle name <;> simp [hidle]
    rw [hname] at hcomponents
    exact .within hcomponents (List.not_mem_append hpoint fun hmem => ne_point_of_counts "." hmem rfl)

end AlongNames

/-- Components without wildcards lead along their names. -/
theorem finds_alongNames {p : String → Prop} {tree : FileTree} {wantsDirectory : Bool} {rest : List PatternPart}
    {fixed before : List String} {reached : Reached} (h : AlongNames before reached.path)
    (hslash : ∀ name ∈ fixed, '/' ∉ name.toList)
    (hrest : ∀ reached, AlongNames (before ++ fixed.filter fun piece => !isIdle piece) reached.path →
      PathPattern.Finds p (PathPattern.expand tree wantsDirectory rest reached)) :
    PathPattern.Finds p (PathPattern.expand tree wantsDirectory (fixed.map .plain ++ rest) reached) := by
  -- by induction over the components that are left, along the names that count so far
  induction fixed generalizing before reached with
  | nil => exact hrest reached (by simpa using h)
  | cons name more ih =>
    obtain ⟨hname, hmore⟩ := List.forall_mem_cons.mp hslash
    refine .plain fun hne => ih (h.below hname hne) hmore fun next hnext => hrest next ?_
    rwa [← List.singleton_append, List.filter_append, ← List.append_assoc]

/-- A path that begins with some names. -/
structure Begins (before : List String) (path : String) : Prop where
  components_ne_nil : components path ≠ []
  isPrefix : before <+: components path

namespace Begins

variable {before : List String} {path longer name : String}

theorem ne_empty (h : Begins before path) : path ≠ "" := fun e => h.components_ne_nil (e ▸ rfl)

theorem append (h : Begins before path) {more : List String} (hlonger : components longer = components path ++ more) :
    Begins before longer where
  components_ne_nil := hlonger ▸ List.append_ne_nil_of_left_ne_nil h.components_ne_nil more
  isPrefix := hlonger ▸ h.isPrefix.trans (List.prefix_append _ more)

/-- The current directory begins with no names, so it can be replaced. -/
theorem below (h : Begins before path) (hpoint : "." ∉ before) (hslash : '/' ∉ name.toList)
    (hne : isHere path → name ≠ "") : Begins before (PathPattern.below path name) := by
  have hcomponents := PathPattern.components_below h.ne_empty hslash hne
  by_cases hhere : isHere path
  · rw [if_pos hhere] at hcomponents
    have hprefix := h.isPrefix
    rw [beq_iff_eq.mp hhere] at hprefix
    obtain rfl : before = [] := by
      cases before with
      | nil => rfl
      | cons first rest =>
        obtain ⟨rfl, -⟩ := List.cons_prefix_cons.mp hprefix
        exact absurd List.mem_cons_self hpoint
    exact ⟨hcomponents ▸ List.cons_ne_nil _ _, List.nil_prefix⟩
  · rw [if_neg hhere] at hcomponents
    exact h.append hcomponents

/-- All steps lead from paths that begin with some names to such paths. -/
theorem kept (hpoint : "." ∉ before) : Kept (fun name => '/' ∉ name.toList) (Begins before) where
  fileName h hname := h.below hpoint hname.2 fun _ e => hname.1 (by simp [e])
  dots h hname := h.append (components_join h.ne_empty (PathPattern.notMem_of_mem_dots hname))
  plain h hname hne := h.below hpoint hname hne

end Begins

/-! ## Matches -/

/-- **The matches of a pattern begin with the names of its fixed directory.** -/
theorem names_prefix_of_match {tree : FileTree} (hroot : tree.root.Proper) {input directory : String}
    (hdirectory : fixedDirectory? input = some directory) {pattern : PathPattern}
    (hpattern : PathPattern.ofText input = .ok pattern) {paths : List String} (hpaths : pattern.paths tree = .ok paths) :
    ∀ path ∈ paths, names directory <+: components path := by
  -- an empty directory has no names
  rcases fixedDirectory?_cases hdirectory with rfl | ⟨before, after, hcut, hinput, hplain⟩
  · exact fun path _ => List.nil_prefix
  obtain ⟨fixed, rest, hparts, hnames⟩ := exists_fixed_parts hcut hinput hplain hpattern
  have hslash : ∀ name, .plain name ∈ pattern.parts → '/' ∉ name.toList :=
    fun name hname => notMem_of_mem_pieces (PathPattern.mem_pieces_of_plain hpattern hname)
  have horigin : AlongNames (names pattern.origin) pattern.origin := by
    rcases PathPattern.origin_cases hpattern with horigin | horigin
    · rw [horigin]
      exact .within (show components "/" = ["/"] from rfl) (by decide)
    · rw [horigin]
      exact .here rfl
  -- the fixed components lead along their names to one place, and whatever comes after keeps its names in front
  have hfound : PathPattern.Finds (Begins (names directory)) (pattern.paths tree) := by
    rw [PathPattern.paths, hparts]
    refine finds_alongNames horigin (fun name hname => hslash name ?_) fun reached hreached => ?_
    · rw [hparts]
      exact List.mem_append_left _ (List.mem_map_of_mem hname)
    · rw [← hnames] at hreached
      refine (Begins.kept (point_notMem_names directory)).leads hroot.sorted _ (fun name hname => hslash name ?_) reached
        ⟨hreached.components_ne_nil, hreached.isPrefix⟩
      rw [hparts]
      exact List.mem_append_right _ hname
  exact fun path hpath => (hfound paths hpaths path hpath).isPrefix

end JsonShape
