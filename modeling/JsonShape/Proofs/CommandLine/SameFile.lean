import JsonShape.Proofs.CommandLine.FirstSources
import JsonShape.Proofs.Files.Matched

/-!
# Several texts of one file

Points and repeated separators do not matter for the file that a path leads to.  The components of a path leave out
all of them but a point at the front, so two sources are one file just if the path of one has such a point before
the path of the other.  Matches of patterns are tidy, so the path with the point is then an input as it was given.
-/

namespace JsonShape

open PathText

/-- Two paths that are the same without all points and repeated separators. -/
def SameFile (path other : String) : Prop :=
  (components path).filter (· ≠ ".") = (components other).filter (· ≠ ".")

instance (path other : String) : Decidable (SameFile path other) := inferInstanceAs (Decidable (_ = _))

section SameFile

variable {path other : String}

/-- Paths of one file are the same path, or one of them has a point before the other. -/
theorem sameFile_iff : SameFile path other ↔
    SamePath path other ∨ components path = "." :: components other ∨ components other = "." :: components path := by
  constructor
  · intro h
    rcases filter_components path with hp | hp <;> rcases filter_components other with ho | ho
    · exact .inl (by rw [SamePath, hp, ho, h])
    · exact .inr (.inr (by rw [ho, ← h, ← hp]))
    · exact .inr (.inl (by rw [hp, h, ← ho]))
    · exact .inl (by rw [SamePath, hp, ho, h])
  · have hpoint (names : List String) : ("." :: names).filter (· ≠ ".") = names.filter (· ≠ ".") :=
      List.filter_cons_of_neg (by simp)
    rintro (h | h | h)
    · rw [SameFile, h]
    · rw [SameFile, h, hpoint]
    · rw [SameFile, h, hpoint]

/-- A tidy path is no point before another one. -/
theorem Tidy.components_ne (hpath : Tidy path) (hother : Tidy other) :
    components path ≠ "." :: components other := by
  intro h
  cases hpath with
  | here hpath => exact hother.components_ne_nil (List.cons.inj (hpath.symm.trans h)).2.symm
  | above hpath =>
    have hrest := (List.cons.inj (hpath.symm.trans h)).2
    cases hother with
    | here hother => exact absurd (List.cons.inj (hrest.trans hother)).1 (by decide)
    | above hother => exact absurd (List.cons.inj (hrest.trans hother)).1 (by decide)
    | within hother hname =>
      obtain ⟨rfl, -⟩ := List.cons.inj (hrest.trans hother)
      exact hname (by decide)
  | within hpath hname =>
    obtain ⟨rfl, -⟩ := List.cons.inj (hpath.symm.trans h)
    exact hname (by decide)

theorem SameFile.samePath (h : SameFile path other) (hpath : Tidy path) (hother : Tidy other) :
    SamePath path other := by
  rcases sameFile_iff.mp h with h | h | h
  · exact h
  · exact absurd h (hpath.components_ne hother)
  · exact absurd h (hother.components_ne hpath)

end SameFile

/-- A source whose path is not tidy is an input as it was given. -/
theorem FileTree.Leads.given_of_not_tidy {tree : FileTree} (hroot : tree.root.Proper) {input : String}
    (hup : ".." ∉ PathText.pieces input) {source : Source} (h : tree.Leads input source) (hloose : ¬ Tidy source.path) :
    fixedDirectory? input = none ∧ source.path = input := by
  cases h with
  | path h => exact ⟨h, rfl⟩
  | pattern _ hpattern hpaths hpath =>
    exact absurd (PathPattern.tidy_paths hroot hup hpattern hpaths _ hpath) hloose

/-- **Sources of one file**: a path is listed once, so two sources are one file just if one has a point before the
path of the other.  If no input leads up, it is a path that was given with that point in front of it; a pattern
never adds a source for a file that is listed under a tidy path. -/
theorem sources_of_one_file {tree : FileTree} (hroot : tree.root.Proper) {inputs : List String}
    (hup : ∀ input ∈ inputs, ".." ∉ PathText.pieces input) {sources : List Source}
    (h : expandInputs tree inputs = .ok sources) :
    sources.Pairwise fun source other =>
      (SameFile source.path other.path ↔ components source.path = "." :: components other.path ∨
        components other.path = "." :: components source.path) ∧
      (SameFile source.path other.path → ∃ input ∈ inputs, fixedDirectory? input = none ∧
        ¬ Tidy input ∧ (input = source.path ∨ input = other.path)) := by
  obtain ⟨named, hnamed, rfl⟩ := expandInputs_eq_ok_iff.mp h
  have hkept := keepsFirsts_foldl named.flatten
  refine hkept.pairwise.imp_of_mem fun {source other} hsource hother hpath => ?_
  refine ⟨?_, fun hsame => ?_⟩
  · rw [sameFile_iff, or_iff_right hpath]
  · have hgiven {loose : Source} (hmem : loose ∈ named.flatten) (hloose : ¬ Tidy loose.path) :
        loose.path ∈ inputs ∧ fixedDirectory? loose.path = none := by
      obtain ⟨input, hinput, hleads⟩ := (mem_flatten_names_iff hnamed).mp hmem
      obtain ⟨hnone, hpath⟩ := hleads.given_of_not_tidy hroot (hup input hinput) hloose
      exact hpath ▸ ⟨hinput, hnone⟩
    -- two tidy paths of one file are the same path, so one of these is not tidy, and it was given
    by_cases hs : Tidy source.path
    · by_cases ho : Tidy other.path
      · exact absurd (hsame.samePath hs ho) hpath
      · obtain ⟨hinput, hnone⟩ := hgiven (hkept.mem hother) ho
        exact ⟨_, hinput, hnone, ho, .inr rfl⟩
    · obtain ⟨hinput, hnone⟩ := hgiven (hkept.mem hsource) hs
      exact ⟨_, hinput, hnone, hs, .inl rfl⟩

/-- A pattern finds a file that was given with a point at the front, and lists it again. -/
theorem sources_of_one_file_sample :
    let tree : FileTree := ⟨.directory [("in", .directory [("a.json", .file ⟨#[]⟩)])], []⟩
    let inputs := ["./in/a.json", "./in/*.json", "in//a.json"]
    let first : Source := ⟨"./in/a.json", "./in/a.json"⟩
    let second : Source := ⟨"in/a.json", "in/a.json"⟩
    expandInputs tree inputs = .ok [first, second] ∧
      ∃ input ∈ inputs, fixedDirectory? input = none ∧
        ¬ Tidy input ∧ (input = first.path ∨ input = second.path) := by
  intro tree inputs first second
  have hinside : (Entry.directory [("a.json", .file ⟨#[]⟩)]).Proper := .cons (by decide) (.file _) .nil
  have hroot : tree.root.Proper := .cons (by decide) hinside .nil
  have hsources : expandInputs tree inputs = .ok [first, second] := by decide +kernel
  have hup : ∀ input ∈ inputs, ".." ∉ PathText.pieces input := by decide
  have hpairs := sources_of_one_file hroot hup hsources
  exact ⟨hsources, (List.pairwise_pair.mp hpairs).2 (by decide)⟩

/-- A point before a path makes it another one, though the file is the same. -/
theorem listed_twice :
    let tree : FileTree := ⟨.directory [("a.json", .file ⟨#[]⟩)], []⟩
    expandInputs tree ["a.json", "./a.json"] = .ok [⟨"a.json", "a.json"⟩, ⟨"./a.json", "./a.json"⟩] ∧
      SameFile "a.json" "./a.json" :=
  ⟨by decide, by decide⟩

end JsonShape
