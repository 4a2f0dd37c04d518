import JsonShape.Proofs.Validation.Inward
import JsonShape.Proofs.Validation.Parse

/-!
# The depth of a schema

A cap that is no lower than the depth of a schema plays no part in a check: no complaint is about it, and the
check is the same under all such caps.  Every lower cap is met by some document, which leads past all layers to
a rule that stands deepest (`exists_goesBeyond`).  So the depth is just the cap that a schema needs
(`depth_is_least_cap`).

`scan_covered` is the scan of a place under a cap that is high enough for the rule there.
-/

namespace JsonShape

/-- Some mismatch is about the cap. -/
def Report.Exceeds (report : Report) : Prop := ∃ m ∈ report, m.complaint = .depthExceeded

namespace Schema

/-- The rule that decides stands within the depth of the schema. -/
theorem layersOver_lt_depth (rule : Schema) (input : Option Json) : rule.layersOver input < rule.depth := by
  induction rule with
  | primitive rule hp =>
    rw [layersOver_of_isBase (isBase_of_primitive hp)]
    exact rule.depth_pos
  | construct fields _ => exact depth_pos _
  | array item _ => exact depth_pos _
  | layer inner rule hl ih =>
    by_cases ht : rule.letsThrough input = true
    · rw [hl.layersOver_of_letsThrough ht]
      exact rule.depth_pos
    · rw [hl.layersOver (by simpa using ht), hl.depth]
      omega

end Schema

/-! ## A cap that is high enough -/

section Covered

variable {cap depth : Nat} {rule : Schema} (h : rule.depth + depth ≤ cap + 1)
include h

theorem covered_of_mem_inward {input : Option Json} {place : Inward} (hp : place ∈ rule.inward input) :
    place.rule.depth + (depth + rule.layers + 1) ≤ cap + 1 := by
  have := Schema.depth_add_layers_lt_of_mem_inward hp
  omega

/-- Under a cap that covers the rule, a place is let through by a layer, looked into, or complained about by the
outermost rule. -/
theorem scan_covered (input : Option Json) :
    scan cap rule input depth =
      if (rule.decider input).letsThrough input then []
      else if kindOf input = rule.expected then
        Report.gather ((rule.inward input).map fun place =>
          (place.step, scan cap place.rule place.input (depth + rule.layers + 1)))
      else [⟨rule.complaint, rule.expected, kindOf input, []⟩] := by
  have := rule.layersOver_lt_depth input
  rw [scan, found, if_neg (by omega), branches_eq_map_inward]

/-- **A cap that is high enough is not complained about.** -/
theorem not_exceeds_of_covered (input : Option Json) : ¬ (scan cap rule input depth).Exceeds := by
  induction rule, input using Schema.induct_inward generalizing depth with
  | step rule input ih =>
    rintro ⟨m, hm, hexceeded⟩
    rw [scan_covered h] at hm
    split at hm
    · cases hm
    split at hm
    · obtain ⟨branch, hb, hm⟩ := List.mem_flatMap.mp hm
      obtain ⟨place, hp, rfl⟩ := List.mem_map.mp hb
      obtain ⟨below, hbelow, rfl⟩ := List.mem_map.mp hm
      exact ih place hp (covered_of_mem_inward h hp) ⟨below, hbelow, hexceeded⟩
    · obtain rfl := List.mem_singleton.mp hm
      exact rule.complaint_ne_depthExceeded hexceeded

/-- **Caps that are high enough make no difference.** -/
theorem scan_eq_of_covered {cap' : Nat} (h' : rule.depth + depth ≤ cap' + 1) (input : Option Json) :
    scan cap rule input depth = scan cap' rule input depth := by
  induction rule, input using Schema.induct_inward generalizing depth with
  | step rule input ih =>
    have hinward : ∀ place ∈ rule.inward input,
        scan cap place.rule place.input (depth + rule.layers + 1) =
          scan cap' place.rule place.input (depth + rule.layers + 1) := by
      intro place hp
      exact ih place hp (covered_of_mem_inward h hp) (covered_of_mem_inward h' hp)
    rw [scan_covered h, scan_covered h', List.map_congr_left fun place hp => by rw [hinward place hp]]

end Covered

/-! ## A cap that is too low -/

/-- A layer takes back no complaint about the cap. -/
theorem exceeds_layer {cap depth : Nat} {inner rule : Schema} (hl : LayerOver inner rule) {input : Option Json}
    (hn : rule.letsThrough input = false) (h : (scan cap inner input (depth + 1)).Exceeds) :
    (scan cap rule input depth).Exceeds := by
  obtain ⟨m, hm, hexceeded⟩ := h
  have hne : scan cap inner input (depth + 1) ≠ [] := List.ne_nil_of_mem hm
  have hlocal : ¬ (scan cap inner input (depth + 1)).all Mismatch.isLocal = true := by
    intro hall
    have := List.all_eq_true.mp hall m hm
    simp [Mismatch.isLocal, hexceeded] at this
  rw [scan_layer_eq_spokenFor hl hn, Report.spokenFor, if_neg (by simpa using hne), if_neg hlocal]
  exact ⟨m, hm, hexceeded⟩

theorem exceeds_gather {branches : List (Step × Report)} {branch : Step × Report} (hb : branch ∈ branches)
    (h : branch.2.Exceeds) : (Report.gather branches).Exceeds := by
  obtain ⟨m, hm, hexceeded⟩ := h
  exact ⟨m.below [branch.1], List.mem_flatMap.mpr ⟨branch, hb, List.mem_map_of_mem hm⟩, hexceeded⟩

/-- The document leads to a place beyond the cap.  It is not `null`, which a layer might let through. -/
def GoesBeyond (cap depth : Nat) (rule : Schema) (document : Json) : Prop :=
  document ≠ .null ∧ (scan cap rule (some document) depth).Exceeds

/-- If the rule itself is beyond the cap, every document is, so it remains to look at rules within it. -/
theorem exists_goesBeyond_of_le {cap depth : Nat} {rule : Schema}
    (h : depth ≤ cap → ∃ document, GoesBeyond cap depth rule document) :
    ∃ document, GoesBeyond cap depth rule document := by
  by_cases hc : cap < depth
  · refine ⟨.bool true, by simp, ?_⟩
    rw [scan_of_lt hc]
    exact ⟨_, List.mem_singleton_self _, rfl⟩
  · exact h (by omega)

theorem goesBeyond_object {cap depth : Nat} (hc : depth ≤ cap) {fields : List (String × Schema)}
    {field : String × Schema} (hf : field ∈ fields) {document : Json}
    (h : GoesBeyond cap (depth + 1) field.2 document) :
    GoesBeyond cap depth (.construct fields) (.object [(field.1, document)]) := by
  refine ⟨by simp, ?_⟩
  rw [scan_construct hc]
  refine exceeds_gather (List.mem_map_of_mem hf) ?_
  have hget : Members.get? field.1 [(field.1, document)] = some document := if_pos rfl
  rw [hget]
  exact h.2

theorem goesBeyond_array {cap depth : Nat} (hc : depth ≤ cap) {item : Schema} {document : Json}
    (h : GoesBeyond cap (depth + 1) item document) :
    GoesBeyond cap depth (.array item) (.array [document]) := by
  refine ⟨by simp, ?_⟩
  rw [scan_array hc]
  exact exceeds_gather List.mem_cons_self h.2

theorem goesBeyond_layer {cap depth : Nat} {inner rule : Schema} (hl : LayerOver inner rule) {document : Json}
    (h : GoesBeyond cap (depth + 1) inner document) : GoesBeyond cap depth rule document := by
  obtain ⟨hnull, hexceeds⟩ := h
  exact ⟨hnull, exceeds_layer hl (rule.letsThrough_of_ne_null hnull) hexceeds⟩

/-- **A cap that is too low is met by some document**, along a way to a rule that stands deepest. -/
theorem exists_goesBeyond {cap depth : Nat} {rule : Schema} (h : cap + 1 < rule.depth + depth) :
    ∃ document, GoesBeyond cap depth rule document := by
  induction rule generalizing depth with
  | primitive rule hp =>
    refine exists_goesBeyond_of_le fun hc => ?_
    rw [Schema.depth_of_primitive hp] at h
    omega
  | construct fields ih =>
    refine exists_goesBeyond_of_le fun hc => ?_
    rw [Schema.depth] at h
    have hfields : cap - depth < Schema.depthOfFields fields := by omega
    -- one of the fields is as deep as all, and it is the only one that is supplied
    obtain ⟨field, hf, hdepth⟩ := Schema.lt_depthOfFields_iff.mp hfields
    obtain ⟨document, hd⟩ := ih field hf (show cap + 1 < field.2.depth + (depth + 1) by omega)
    exact ⟨_, goesBeyond_object hc hf hd⟩
  | array item ih =>
    refine exists_goesBeyond_of_le fun hc => ?_
    rw [Schema.depth] at h
    obtain ⟨document, hd⟩ := ih (show cap + 1 < item.depth + (depth + 1) by omega)
    exact ⟨_, goesBeyond_array hc hd⟩
  | layer inner rule hl ih =>
    rw [hl.depth] at h
    obtain ⟨document, hd⟩ := ih (show cap + 1 < inner.depth + (depth + 1) by omega)
    exact ⟨document, goesBeyond_layer hl hd⟩

/-! ## Checks -/

/-- **The depth is just the cap that a schema needs**: under a lower cap, and under no other, the check of some
input complains about the cap, and under all caps that are no lower it is the same for every input. -/
theorem depth_is_least_cap (rule : Schema) :
    (∀ cap, (∃ input report, rule.parse input cap = .error report ∧
      ∃ m ∈ report, m.complaint = .depthExceeded) ↔ cap < rule.depth) ∧
    ∀ cap cap', rule.depth ≤ cap → rule.depth ≤ cap' → ∀ input,
      rule.parse input cap = rule.parse input cap' := by
  constructor
  · intro cap
    constructor
    · rintro ⟨input, report, hparse, hexceeds⟩
      obtain ⟨rfl, -⟩ := parse_eq_error_iff.mp hparse
      refine Nat.lt_of_not_le ?_
      intro hc
      exact not_exceeds_of_covered (show rule.depth + 1 ≤ cap + 1 by omega) input hexceeds
    · -- the document goes along the way to the deepest rule, and is refused for the cap
      intro hc
      obtain ⟨document, -, hexceeds⟩ := exists_goesBeyond (show cap + 1 < rule.depth + 1 by omega)
      have hne : scan cap rule (some document) 1 ≠ [] := by
        obtain ⟨m, hm, -⟩ := hexceeds
        exact List.ne_nil_of_mem hm
      exact ⟨some document, _, parse_eq_error_iff.mpr ⟨rfl, hne⟩, hexceeds⟩
  · intro cap cap' hc hc' input
    rw [parse_eq, parse_eq,
      scan_eq_of_covered (show rule.depth + 1 ≤ cap + 1 by omega) (show rule.depth + 1 ≤ cap' + 1 by omega)]

/-- The deepest rule stands under a layer, in an array, in a record under another layer. -/
theorem depth_is_least_cap_sample :
    let rule : Schema := .nullable (.construct [("id", .number), ("tags", .array (.optional .string))])
    let input : Json := .object [("tags", .array [.string "x", .null])]
    rule.depth = 5 ∧
      (∃ input report, rule.parse input 4 = .error report ∧ ∃ m ∈ report, m.complaint = .depthExceeded) ∧
      rule.parse (some input) 64 = .error [⟨.invalidType, .number, .missing, [.field "id"]⟩,
        ⟨.unexpectedAbsence, .string, .null, [.field "tags", .index 1]⟩] := by
  intro rule input
  have hdepth : rule.depth = 5 := rfl
  obtain ⟨hlow, hhigh⟩ := depth_is_least_cap rule
  refine ⟨hdepth, (hlow 4).mpr (by rw [hdepth]; decide), ?_⟩
  rw [hhigh 64 5 (by rw [hdepth]; decide) (Nat.le_of_eq hdepth)]
  rfl

end JsonShape
