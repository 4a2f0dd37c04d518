import JsonShape.Proofs.Validation.Inward
import JsonShape.Proofs.Validation.Parse

/-!
# A check inside of a walk

What a walk does at a place does not depend on how it got there.  Of the cap and the depth only the levels that are
left count (`scan_of_levels`), and of the path and the log nothing does: the walk comes back to its path with its
log as it was and, after it, what a check of the place by itself reports (`visit_frame`).
-/

namespace JsonShape

/-- **Only the levels left under the cap matter** for the scan of a place. -/
theorem scan_of_levels {cap depth cap' depth' : Nat} (h : cap + 1 - depth = cap' + 1 - depth') (rule : Schema)
    (input : Option Json) : scan cap rule input depth = scan cap' rule input depth' := by
  induction rule, input using Schema.induct_inward generalizing depth depth' with
  | step rule input ih =>
    have hinward : ∀ place ∈ rule.inward input,
        scan cap place.rule place.input (depth + rule.layers + 1) =
          scan cap' place.rule place.input (depth' + rule.layers + 1) :=
      fun place hp => ih place hp (by omega)
    have hbranches : branches cap rule input depth = branches cap' rule input depth' := by
      rw [branches_eq_map_inward, branches_eq_map_inward]
      exact List.map_congr_left fun place hp => by rw [hinward place hp]
    have hbeyond : cap < depth + rule.layersOver input ↔ cap' < depth' + rule.layersOver input := by omega
    rw [scan, scan, hbranches, found, found]
    simp only [hbeyond]

/-- Taking mismatches back leaves those before the mark. -/
theorem Walk.take_prefix_collapse (w : Walk) (mark : Nat) (complaint : Complaint) (expected received : Kind) :
    w.log.take mark <+: (w.collapse mark complaint expected received).log := by
  unfold collapse
  split
  · exact List.prefix_append _ _
  · exact List.take_prefix mark w.log

/-- The answer of a walk and the report that it leaves are those of a check. -/
theorem parse_eq_elim_verdict (rule : Schema) (input : Option Json) (cap : Nat) :
    rule.parse input cap =
      ((scan cap rule input 1).verdict (input.map rule.prune)).elim (.error (scan cap rule input 1)) .ok := by
  rw [parse_eq, Report.verdict]
  cases scan cap rule input 1 <;> rfl

/-- **A walk at a place is a check of the place by itself**, whatever its path and its log: it comes back to the
path, it puts further mismatches behind the log and answers with nothing just if there are some, and these, without
the path in front of them, and the answer are those of a check with as many levels left under its cap.  A layer that
takes back what was logged in between leaves the log from before. -/
theorem visit_frame (cap : Nat) (rule : Schema) (input : Option Json) (depth : Nat) (w : Walk) :
    ∃ further : Report,
      (visit cap rule input depth w).2 = ⟨w.path, w.log ++ further.map (Mismatch.below w.path)⟩ ∧
      ((visit cap rule input depth w).1 = none ↔ further ≠ []) ∧
      rule.parse input (cap + 1 - depth) = (visit cap rule input depth w).1.elim (.error further) .ok ∧
      ∀ complaint expected received,
        w.log <+: ((visit cap rule input depth w).2.collapse w.log.length complaint expected received).log := by
  have hvisit := visit_follows cap rule input depth w
  have hlevels : scan cap rule input depth = scan (cap + 1 - depth) rule input 1 := scan_of_levels (by omega) rule input
  rw [Follows, hlevels] at hvisit
  rw [hvisit]
  refine ⟨scan (cap + 1 - depth) rule input 1, rfl, ?_, parse_eq_elim_verdict rule input _, ?_⟩
  · simp [Report.verdict]
  · intro complaint expected received
    have htake := (w.logAll (scan (cap + 1 - depth) rule input 1)).take_prefix_collapse w.log.length complaint
      expected received
    rwa [Walk.logAll, List.take_left] at htake

/-- Two layers fail over a mismatch at their own place while an earlier one at that place, made before them, stays. -/
example :
    visit 9 (.optional (.nullable .string)) (some (.bool true)) 4
        ⟨[.field "a"], [⟨.invalidType, .number, .null, [.field "a"]⟩]⟩ =
      (none, ⟨[.field "a"], [⟨.invalidType, .number, .null, [.field "a"]⟩,
        ⟨.unexpectedAbsence, .string, .boolean, [.field "a"]⟩]⟩) := rfl

end JsonShape
