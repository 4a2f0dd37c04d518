import JsonShape.Proofs.Validation.Alike
import JsonShape.Proofs.Validation.Pruning

/-!
# Results that are checked again

Pruning takes away only what a schema does not look at, so an input and its pruned form are alike
(`alike_pruned`).  What a check has let through is therefore let through again under the same cap, however low
that is, and it is pruned to itself (`parse_idempotent`).
-/

namespace JsonShape

theorem Schema.kindOf_pruned (rule : Schema) (input : Option Json) :
    kindOf (input.map rule.prune) = kindOf input := by
  cases input with
  | none => rfl
  | some document => exact rule.kind_prune document

/-- The elements of an array differ from their pruned forms where the rule of the elements does not look. -/
theorem alike_pruned_items {item : Schema} (h : ∀ input, Alike item input (input.map item.prune))
    (items : List Json) : Alike (.array item) (some (.array items)) (some (.array (items.map item.prune))) := by
  refine .array (List.length_map item.prune).symm ?_
  intro pair hp
  rw [← List.map_prod_left_eq_zip] at hp
  obtain ⟨value, -, rfl⟩ := List.mem_map.mp hp
  exact h (some value)

/-- **An input and its pruned form are alike**: nothing is taken away that the schema looks at. -/
theorem alike_pruned {rule : Schema} (hd : rule.Distinct) (input : Option Json) :
    Alike rule input (input.map rule.prune) := by
  induction rule generalizing input with
  | primitive rule hp =>
    have hsame : input.map rule.prune = input := by
      rw [funext (Schema.prune_of_primitive hp), Option.map_id']
    rw [hsame]
    exact .primitive hp input
  | construct fields ih =>
    -- what is no object is not pruned, and unfit before and after
    by_cases hk : kindOf input = .object
    · obtain ⟨members, rfl⟩ := kindOf_eq_object_iff.mp hk
      refine .construct ?_
      intro field hf
      rw [Schema.get?_pruneFields hd.1 hf]
      exact ih field hf (Schema.distinctFields_iff.mp hd.2 field hf) (Members.get? field.1 members)
    · exact .unfit (Schema.kindOf_pruned _ input).symm hk
  | array item ih =>
    by_cases hk : kindOf input = .array
    · obtain ⟨items, rfl⟩ := kindOf_eq_array_iff.mp hk
      exact alike_pruned_items (ih hd) items
    · exact .unfit (Schema.kindOf_pruned _ input).symm hk
  | layer inner rule hl ih =>
    rw [funext hl.prune]
    exact .layer hl (ih (hl.distinct hd) input)

/-- **A check of its own result changes nothing**: under the same cap the result is let through and comes out as
it went in, with the same order of members, and it is missing only if the input was. -/
theorem parse_idempotent {rule : Schema} (hd : rule.Distinct) {input out : Option Json} {cap : Nat}
    (h : rule.parse input cap = .ok out) :
    rule.parse out cap = .ok out ∧ (out = none ↔ input = none) := by
  obtain ⟨hs, rfl⟩ := parse_eq_ok_iff.mp h
  have halike := alike_pruned hd input
  have hscan : scan cap rule (input.map rule.prune) 1 = [] := by
    rw [← halike.scan_eq]
    exact hs
  have hpruned := halike.prune_eq (conforms_of_scan_eq_nil hs)
  exact ⟨parse_eq_ok_iff.mpr ⟨hscan, hpruned⟩, Option.map_eq_none_iff⟩

/-- The cap does not cover the schema, but what is beyond it is missing.  A member is dropped and two change
places. -/
theorem parse_idempotent_sample :
    let rule : Schema := .construct [("id", .number),
      ("pet", .optional (.construct [("names", .array (.array .string))])), ("tags", .array (.nullable .boolean))]
    let input : Json := .object [("tags", .array [.null, .bool true]), ("age", .null),
      ("id", .number (.integer 7))]
    let out : Json := .object [("id", .number (.integer 7)), ("tags", .array [.null, .bool true])]
    rule.Distinct ∧ 4 < rule.depth ∧ rule.parse (some input) 4 = .ok (some out) ∧
      rule.parse (some out) 4 = .ok (some out) := by
  intro rule input out
  have hd : rule.Distinct := by
    simp [rule, Schema.Distinct, Schema.DistinctFields, Members.names]
  have hparse : rule.parse (some input) 4 = .ok (some out) := rfl
  exact ⟨hd, by decide, hparse, (parse_idempotent hd hparse).1⟩

end JsonShape
