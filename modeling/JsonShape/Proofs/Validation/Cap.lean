import JsonShape.Proofs.Validation.Inward
import JsonShape.Proofs.Validation.Parse
import Mathlib.Data.List.Basic

/-!
# The cap on the depth of schema

Two checks of one document under different caps differ only where the lower cap cut the schema off.
`Report.refine` puts, for each complaint about the cap in a report, what another report has at that
place and further in.  The main statement is that the report under a higher cap is the refinement of the
one under a lower cap by itself, so that every other mismatch stays as it is and in its place.
-/

namespace JsonShape

namespace Report

/-- The mismatches at a place and further in. -/
def subtree (report : Report) (place : Path) : Report := report.filter fun m => place <+: m.path

/-- Each complaint about the cap replaced by what a finer report has at its place and further in. -/
def refine (report finer : Report) : Report :=
  report.flatMap fun m => if m.complaint = .depthExceeded then finer.subtree m.path else [m]

theorem subtree_nil (report : Report) : report.subtree [] = report := by
  simp [subtree]

theorem subtree_below (step : Step) (report : Report) (place : Path) :
    subtree (report.map (Mismatch.below [step])) (step :: place) =
      (report.subtree place).map (Mismatch.below [step]) := by
  rw [subtree, List.filter_map, subtree]
  refine congrArg (List.map _) (List.filter_congr fun m _ => ?_)
  simp [List.cons_prefix_cons]

theorem subtree_below_of_ne {step other : Step} (h : step ≠ other) (report : Report) (place : Path) :
    subtree (report.map (Mismatch.below [other])) (step :: place) = [] := by
  simp [subtree, List.cons_prefix_cons, h]

/-- Below a step there is only what the branch with that step reports, if the steps are distinct. -/
theorem subtree_gather {branches : List (Step × Report)} (hn : (branches.map Prod.fst).Nodup)
    {branch : Step × Report} (h : branch ∈ branches) (place : Path) :
    (gather branches).subtree (branch.1 :: place) =
      (branch.2.subtree place).map (Mismatch.below [branch.1]) := by
  -- only one branch has the step, so the others have nothing below it
  induction branches with
  | nil => simp at h
  | cons first rest ih =>
    rw [List.map_cons, List.nodup_cons] at hn
    have hsplit : (gather (first :: rest)).subtree (branch.1 :: place) =
        subtree (first.2.map (Mismatch.below [first.1])) (branch.1 :: place) ++
          (gather rest).subtree (branch.1 :: place) := by
      rw [gather_cons]
      exact List.filter_append ..
    rcases List.mem_cons.mp h with rfl | h
    · have hrest : (gather rest).subtree (branch.1 :: place) = [] := by
        rw [subtree, List.filter_eq_nil_iff]
        intro m hm hp
        obtain ⟨other, ho, hm⟩ := List.mem_flatMap.mp hm
        obtain ⟨inner, -, rfl⟩ := List.mem_map.mp hm
        have : branch.1 = other.1 := (List.cons_prefix_cons.mp (by simpa using hp)).1
        exact hn.1 (this ▸ List.mem_map_of_mem ho)
      rw [hsplit, hrest, List.append_nil, subtree_below]
    · have hne : branch.1 ≠ first.1 := fun e => hn.1 (e ▸ List.mem_map_of_mem h)
      rw [hsplit, subtree_below_of_ne hne, List.nil_append, ih hn.2 h]

theorem gather_map {ι : Type} (step : ι → Step) (report : ι → Report) (places : List ι) :
    gather (places.map fun x => (step x, report x)) =
      places.flatMap fun x => (report x).map (Mismatch.below [step x]) := by
  rw [gather, List.flatMap_map]

theorem refine_nil (finer : Report) : refine [] finer = [] := rfl

theorem refine_singleton (m : Mismatch) (finer : Report) :
    refine [m] finer = if m.complaint = .depthExceeded then finer.subtree m.path else [m] := by
  simp [refine]

/-- Refining what a branch reports takes no more of the whole report than what that branch made. -/
theorem refine_below {branches : List (Step × Report)} (hn : (branches.map Prod.fst).Nodup)
    {branch : Step × Report} (h : branch ∈ branches) (report : Report) :
    refine (report.map (Mismatch.below [branch.1])) (gather branches) =
      (report.refine branch.2).map (Mismatch.below [branch.1]) := by
  rw [refine, refine, List.flatMap_map, List.map_flatMap]
  refine List.flatMap_congr fun m _ => ?_
  rw [Mismatch.below_complaint, Mismatch.below_path]
  split
  · exact subtree_gather hn h m.path
  · rfl

/-- If the report of every place is refined by a finer one, so are the reports that they make up. -/
theorem refine_gather {ι : Type} {places : List ι} {step : ι → Step} {coarse finer : ι → Report}
    (hn : (places.map step).Nodup) (h : ∀ x ∈ places, (coarse x).refine (finer x) = finer x) :
    (gather (places.map fun x => (step x, coarse x))).refine
        (gather (places.map fun x => (step x, finer x))) =
      gather (places.map fun x => (step x, finer x)) := by
  have hs : ((places.map fun x => (step x, finer x)).map Prod.fst).Nodup := by
    rw [List.map_map]
    exact hn
  have hone : ∀ x ∈ places, refine ((coarse x).map (Mismatch.below [step x]))
      (gather (places.map fun x => (step x, finer x))) = (finer x).map (Mismatch.below [step x]) :=
    fun x hx => (refine_below hs (List.mem_map_of_mem hx) (coarse x)).trans (by rw [h x hx])
  calc (gather (places.map fun x => (step x, coarse x))).refine
        (gather (places.map fun x => (step x, finer x)))
      = places.flatMap fun x => refine ((coarse x).map (Mismatch.below [step x]))
          (gather (places.map fun x => (step x, finer x))) := by
        rw [gather_map step coarse, refine, List.flatMap_assoc]
        rfl
    _ = places.flatMap fun x => (finer x).map (Mismatch.below [step x]) := List.flatMap_congr hone
    _ = gather (places.map fun x => (step x, finer x)) := (gather_map step finer places).symm

end Report

/-! ## Two scans of one place -/

theorem scan_refine {cap cap' : Nat} (h : cap ≤ cap') {rule : Schema} {input : Option Json} {depth : Nat}
    (hi : (Report.gather (branches cap rule input depth)).refine
        (Report.gather (branches cap' rule input depth)) =
      Report.gather (branches cap' rule input depth)) :
    (scan cap rule input depth).refine (scan cap' rule input depth) = scan cap' rule input depth := by
  by_cases hc : cap < depth + rule.layersOver input
  · have hs : scan cap rule input depth = [⟨.depthExceeded, rule.expected, kindOf input, []⟩] := by
      rw [scan, found, if_pos hc]
    rw [hs, Report.refine_singleton, if_pos rfl, Report.subtree_nil]
  · have hc' : ¬ cap' < depth + rule.layersOver input := by omega
    simp only [scan, found, if_neg hc, if_neg hc']
    split
    · rfl
    split
    · exact hi
    · rw [Report.refine_singleton, if_neg rule.complaint_ne_depthExceeded]

/-- The places further in are refined one by one. -/
theorem gather_branches_refine {cap cap' : Nat} (h : cap ≤ cap') {rule : Schema} (hd : rule.Distinct)
    (input : Option Json) (depth : Nat) :
    (Report.gather (branches cap rule input depth)).refine
        (Report.gather (branches cap' rule input depth)) =
      Report.gather (branches cap' rule input depth) := by
  induction rule, input using Schema.induct_inward generalizing depth with
  | step rule input ih =>
    rw [branches_eq_map_inward cap, branches_eq_map_inward cap']
    refine Report.refine_gather (Schema.nodup_steps_inward hd input) fun place hp => ?_
    exact scan_refine h (ih place hp (Schema.distinct_of_mem_inward hd hp) _)

/-- **A higher cap refines the report**: the report under it has every mismatch that is not about the cap
as the lower cap has it and in the same place, and instead of each complaint about the cap what it finds
there and further in.  What is accepted under the lower cap is accepted under the higher one, and comes
out the same. -/
theorem mismatches_refine {rule : Schema} (hd : rule.Distinct) {cap cap' : Nat} (h : cap ≤ cap')
    (input : Option Json) :
    rule.mismatches input cap' = (rule.mismatches input cap).refine (rule.mismatches input cap') ∧
      ∀ out, rule.parse input cap = .ok out → rule.parse input cap' = .ok out := by
  have hs := scan_refine h (gather_branches_refine h hd input 1)
  rw [mismatches_eq_scan, mismatches_eq_scan]
  refine ⟨hs.symm, fun out ho => ?_⟩
  rw [parse_eq_ok_iff] at ho ⊢
  rw [ho.1, Report.refine_nil] at hs
  exact ⟨hs.symm, ho.2⟩

theorem mismatches_refine_sample :
    (Schema.construct [("id", .number), ("tags", .array (.nullable .boolean))]).Distinct ∧ 2 ≤ 4 ∧
    (Schema.construct [("id", .number), ("tags", .array (.nullable .boolean))]).mismatches
      (some (.object [("tags", .array [.bool true, .string "x"])])) 4 =
    Report.refine
      [⟨.invalidType, .number, .missing, [.field "id"]⟩,
        ⟨.depthExceeded, .boolean, .boolean, [.field "tags", .index 0]⟩,
        ⟨.depthExceeded, .boolean, .string, [.field "tags", .index 1]⟩]
      [⟨.invalidType, .number, .missing, [.field "id"]⟩,
        ⟨.unexpectedNull, .boolean, .string, [.field "tags", .index 1]⟩] := by
  have hd : (Schema.construct [("id", .number), ("tags", .array (.nullable .boolean))]).Distinct := by
    simp [Schema.Distinct, Schema.DistinctFields, Members.names]
  refine ⟨hd, by decide, ?_⟩
  exact (mismatches_refine hd (show 2 ≤ 4 by decide)
    (some (.object [("tags", .array [.bool true, .string "x"])]))).1

end JsonShape
