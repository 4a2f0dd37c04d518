import JsonShape.Proofs.CommandLine.FirstSources
import JsonShape.Proofs.CommandLine.FixedDirectory

/-!
# The labels of matches

A match is labelled by what comes after the fixed directory of its pattern.  The match begins with the names of the
directory, so these and the names of the label are the names of the match (`labels_after_directory`).  A point
before the first name of the directory prevents that: it is a component of the directory, but matches come without
it.  The directory is then not taken off, and the label is the whole path.
-/

namespace JsonShape

open PathText

/-- A path with a point before its first name. -/
def PointBeforeNames (path : String) : Prop := (components path).head? = some "." ∧ names path ≠ []

instance (path : String) : Decidable (PointBeforeNames path) := inferInstanceAs (Decidable (_ ∧ _))

section Label

variable {directory path : String}

theorem pointBeforeNames_iff : PointBeforeNames path ↔ components path = "." :: names path ∧ names path ≠ [] := by
  refine and_congr_left fun _ => ?_
  constructor
  · intro hhead
    rcases components_cases path with h | h
    · rw [h] at hhead
      exact absurd (List.mem_of_mem_head? hhead) (point_notMem_names path)
    · exact h
  · intro h
    rw [h, List.head?_cons]

/-- The directory is taken off a path that begins with its names, unless it has a point before them. -/
theorem after?_eq_none_iff_pointBeforeNames (h : names directory <+: components path) (hnames : names directory ≠ []) :
    after? directory path = none ↔ PointBeforeNames directory := by
  rw [after?_eq_none_iff, pointBeforeNames_iff, and_iff_left hnames]
  rcases components_cases directory with hc | hc
  · rw [hc]
    refine iff_of_false (not_not_intro h) fun e => point_notMem_names directory ?_
    exact e ▸ List.mem_cons_self
  · refine iff_of_true (fun hprefix => ?_) hc
    -- the path would begin with the point and with the first name
    obtain ⟨first, rest, hfirst⟩ := List.exists_cons_of_ne_nil hnames
    obtain ⟨more, hpath⟩ := h
    rw [hc, ← hpath, hfirst, List.cons_append] at hprefix
    obtain ⟨rfl, -⟩ := List.cons_prefix_cons.mp hprefix
    exact point_notMem_names directory (hfirst ▸ List.mem_cons_self)

/-- The label of a match that begins with the names of the directory. -/
theorem names_label_iff (h : names directory <+: components path) :
    (names directory ++ names (sourceOfMatch directory path).label = names path ↔ ¬ PointBeforeNames directory) ∧
      (PointBeforeNames directory → (sourceOfMatch directory path).label = path) := by
  unfold sourceOfMatch
  dsimp only
  cases hafter : after? directory path with
  | none =>
    rw [Option.getD_none, List.append_left_eq_self, ← not_iff_not, not_not]
    refine ⟨?_, fun _ => rfl⟩
    by_cases hnames : names directory = []
    · simp [hnames, PointBeforeNames]
    · simpa [hnames] using (after?_eq_none_iff_pointBeforeNames h hnames).mp hafter
  | some label =>
    have hpoint : ¬ PointBeforeNames directory := by
      intro hpoint
      cases hafter.symm.trans ((after?_eq_none_iff_pointBeforeNames h hpoint.2).mpr hpoint)
    exact ⟨iff_of_true (names_after? hafter) hpoint, fun hp => absurd hp hpoint⟩

end Label

/-- **A match is labelled by what comes after the fixed directory**: every source comes from an input, and if that
is a pattern, the path of the source begins with the names of the fixed directory, and after these it has the names
of the label.  It is otherwise just if the directory has a point before its names; then the label is the whole
path. -/
theorem labels_after_directory {tree : FileTree} (hroot : tree.root.Proper) {inputs : List String}
    {sources : List Source} (h : expandInputs tree inputs = .ok sources) :
    ∀ source ∈ sources, (∃ input ∈ inputs, tree.Leads input source) ∧
      ∀ input directory, tree.Leads input source → fixedDirectory? input = some directory →
        names directory <+: names source.path ∧
        (names directory ++ names source.label = names source.path ↔ ¬ PointBeforeNames directory) ∧
        (PointBeforeNames directory → source.label = source.path) := by
  intro source hsource
  obtain ⟨named, hnamed, rfl⟩ := expandInputs_eq_ok_iff.mp h
  refine ⟨(mem_flatten_names_iff hnamed).mp ((keepsFirsts_foldl named.flatten).mem hsource), ?_⟩
  intro input directory hleads hdirectory
  cases hleads with
  | path hnone => cases hnone.symm.trans hdirectory
  | @pattern base pattern paths path hbase hpattern hpaths hpath =>
    obtain rfl : base = directory := Option.some.inj (hbase.symm.trans hdirectory)
    have hprefix := names_prefix_of_match hroot hdirectory hpattern hpaths path hpath
    exact ⟨names_prefix_names hprefix, names_label_iff hprefix⟩

theorem labels_after_directory_sample :
    let tree : FileTree := ⟨.directory [("in", .directory [("sub", .directory [("b.json", .file ⟨#[]⟩)])])], []⟩
    expandInputs tree ["in//*/b.json"] = .ok [⟨"in/sub/b.json", "sub/b.json"⟩] ∧
      names "in//" ++ names "sub/b.json" = names "in/sub/b.json" := by
  intro tree
  have hsub : (Entry.directory [("b.json", .file ⟨#[]⟩)]).Proper := .cons (by decide) (.file _) .nil
  have hinside : (Entry.directory [("sub", .directory [("b.json", .file ⟨#[]⟩)])]).Proper :=
    .cons (by decide) hsub .nil
  have hroot : tree.root.Proper := .cons (by decide) hinside .nil
  have hsources : expandInputs tree ["in//*/b.json"] = .ok [⟨"in/sub/b.json", "sub/b.json"⟩] := by decide +kernel
  obtain ⟨⟨input, hinput, hleads⟩, hlabel⟩ := labels_after_directory hroot hsources _ List.mem_cons_self
  obtain rfl := List.mem_singleton.mp hinput
  obtain ⟨-, hiff, -⟩ := hlabel _ "in//" hleads (by decide)
  exact ⟨hsources, hiff.mpr (by decide)⟩

/-- A point before the directory stays out of the match, and the label repeats the directory. -/
theorem label_repeats_directory :
    let tree : FileTree := ⟨.directory [("in", .directory [("a.json", .file ⟨#[]⟩)])], []⟩
    expandInputs tree ["./in/*.json"] = .ok [⟨"in/a.json", "in/a.json"⟩] ∧
      fixedDirectory? "./in/*.json" = some "./in/" ∧
      names "./in/" ++ names "in/a.json" ≠ names "in/a.json" :=
  ⟨by decide +kernel, by decide, by decide⟩

end JsonShape
