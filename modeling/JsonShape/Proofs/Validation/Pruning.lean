import JsonShape.Proofs.Validation.Conformity

/-!
# Documents that have been pruned

Under the name of a declared field a pruned record has what it had before, pruned in its turn
(`get?_pruneFields`).  So what was accepted is still accepted after it has been pruned
(`conforms_prune`).
-/

namespace JsonShape

/-- To a document other than `null`, a layer makes no difference. -/
theorem LayerOver.conforms_iff_of_ne_null {inner rule : Schema} (h : LayerOver inner rule)
    {document : Json} (hn : document ≠ .null) :
    Conforms rule (some document) ↔ Conforms inner (some document) :=
  conforms_layer_iff h (rule.letsThrough_of_ne_null hn)

namespace Schema

theorem mem_names_of_mem_pruneFields {name : String} {fields : List (String × Schema)}
    {members : List (String × Json)} (h : name ∈ Members.names (pruneFields fields members)) :
    name ∈ Members.names fields := by
  rw [names_pruneFields] at h
  exact (List.mem_filter.mp h).1

/-- A declared field of a pruned record is the pruned field of the record, or missing as it was. -/
theorem get?_pruneFields {fields : List (String × Schema)} (hn : (Members.names fields).Nodup)
    {field : String × Schema} (hf : field ∈ fields) (members : List (String × Json)) :
    Members.get? field.1 (pruneFields fields members) =
      (Members.get? field.1 members).map field.2.prune := by
  induction fields with
  | nil => cases hf
  | cons first rest ih =>
    obtain ⟨name, rule⟩ := first
    have hnodup : name ∉ Members.names rest ∧ (Members.names rest).Nodup := List.nodup_cons.mp hn
    rcases List.mem_cons.mp hf with rfl | hmem
    · -- the first field: what is found is in front, and nothing of its name stands further on
      have hrest : Members.get? name (pruneFields rest members) = none :=
        Members.get?_eq_none_of_notMem fun h => hnodup.1 (mem_names_of_mem_pruneFields h)
      cases hv : Members.get? name members with
      | none => simp [pruneFields, hv, hrest]
      | some value => simp [pruneFields, hv, Members.get?]
    · have hne : name ≠ field.1 := by
        rintro rfl
        exact hnodup.1 (List.mem_map_of_mem hmem)
      have hskip : Members.get? field.1 (pruneFields ((name, rule) :: rest) members) =
          Members.get? field.1 (pruneFields rest members) := by
        cases hv : Members.get? name members with
        | none => simp [pruneFields, hv]
        | some value => simp [pruneFields, hv, Members.get?, hne]
      rw [hskip]
      exact ih hnodup.2 hmem

end Schema

/-- What is accepted is accepted again in its pruned form. -/
theorem conforms_prune {rule : Schema} (hd : rule.Distinct) {document : Json}
    (h : Conforms rule (some document)) : Conforms rule (some (rule.prune document)) := by
  induction rule generalizing document with
  | primitive rule hp => rwa [Schema.prune_of_primitive hp]
  | construct fields ih =>
    obtain ⟨hn, hfields⟩ := hd
    obtain ⟨members, he, hc⟩ := conforms_construct_iff.mp h
    obtain rfl := Option.some.inj he
    refine .construct fun field hf => ?_
    have hfield := hc field hf
    rw [Schema.get?_pruneFields hn hf]
    -- a field that is missing is missing in the pruned record too
    cases hv : Members.get? field.1 members with
    | none => rwa [hv] at hfield
    | some value =>
      rw [hv] at hfield
      exact ih field hf (Schema.distinctFields_iff.mp hfields field hf) hfield
  | array item ih =>
    obtain ⟨items, he, hc⟩ := conforms_array_iff.mp h
    obtain rfl := Option.some.inj he
    refine .array fun value hv => ?_
    obtain ⟨original, ho, rfl⟩ := List.mem_map.mp hv
    exact ih hd (hc original ho)
  | layer inner rule hl ih =>
    rw [hl.prune]
    -- `null` is not pruned, so a layer that admits it still does
    by_cases hn : document = .null
    · subst hn
      rwa [Schema.prune_eq_null_iff.mpr rfl]
    · exact hl.conforms (ih (hl.distinct hd) ((hl.conforms_iff_of_ne_null hn).mp h))

end JsonShape
