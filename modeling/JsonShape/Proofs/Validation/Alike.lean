import JsonShape.Proofs.Validation.Parse
import Mathlib.Data.List.Basic

/-!
# What a schema does not look at

A check looks at an input only where the schema does.  `Alike rule first second` says that two inputs differ
in nothing else: they may have other members besides the declared ones, have their members in another order,
and have anything of the same kind wherever that kind is not the one the rule wants.

Two inputs that are alike have the same report (`Alike.scan_eq`) and, if they conform, are pruned to the same
value (`Alike.prune_eq`), so a check cannot tell them apart.
-/

namespace JsonShape

/-- The two inputs differ at most where the rule does not look. -/
inductive Alike : Schema → Option Json → Option Json → Prop
  | unfit {rule : Schema} {first second : Option Json} (hk : kindOf first = kindOf second)
      (hu : kindOf first ≠ rule.expected) : Alike rule first second
  | primitive {rule : Schema} (hp : rule.isPrimitive) (input : Option Json) : Alike rule input input
  | construct {fields : List (String × Schema)} {members others : List (String × Json)}
      (h : ∀ field ∈ fields,
        Alike field.2 (Members.get? field.1 members) (Members.get? field.1 others)) :
      Alike (.construct fields) (some (.object members)) (some (.object others))
  | array {item : Schema} {items others : List Json} (hl : items.length = others.length)
      (h : ∀ pair ∈ items.zip others, Alike item (some pair.1) (some pair.2)) :
      Alike (.array item) (some (.array items)) (some (.array others))
  | layer {inner rule : Schema} (hl : LayerOver inner rule) {first second : Option Json}
      (h : Alike inner first second) : Alike rule first second

/-! ## Lists of pairs -/

section Zip

variable {α β : Type} {items others : List α}

theorem map_eq_of_zip (hl : items.length = others.length) {f : α → β}
    (h : ∀ pair ∈ items.zip others, f pair.1 = f pair.2) : items.map f = others.map f := by
  calc items.map f = (items.zip others).map (f ∘ Prod.fst) := by
        rw [← List.map_map, List.map_fst_zip (Nat.le_of_eq hl)]
    _ = (items.zip others).map (f ∘ Prod.snd) := List.map_congr_left h
    _ = others.map f := by rw [← List.map_map, List.map_snd_zip (Nat.le_of_eq hl.symm)]

theorem map_zipIdx_eq_of_zip (hl : items.length = others.length) {f : α → β}
    (h : ∀ pair ∈ items.zip others, f pair.1 = f pair.2) :
    (items.zipIdx.map fun entry => (Step.index entry.2, f entry.1)) =
      others.zipIdx.map fun entry => (Step.index entry.2, f entry.1) := by
  have hmap : ∀ list : List α, (list.zipIdx.map fun entry => (Step.index entry.2, f entry.1)) =
      (list.map f).zipIdx.map fun entry => (Step.index entry.2, entry.1) := by
    intro list
    rw [List.zipIdx_map, List.map_map]
    rfl
  rw [hmap, hmap, map_eq_of_zip hl h]

end Zip

/-! ## The kind of an input -/

theorem eq_of_kindOf_eq {first second : Option Json} (h : kindOf first = kindOf second)
    (hm : first = none ∨ first = some .null) : first = second := by
  rcases hm with rfl | rfl
  · exact (kindOf_eq_missing_iff.mp h.symm).symm
  · exact (kindOf_eq_null_iff.mp h.symm).symm

namespace Schema

/-- A layer lets only a missing input and `null` through by itself. -/
theorem eq_of_letsThrough {rule : Schema} {input : Option Json} (h : rule.letsThrough input = true) :
    input = none ∨ input = some .null := by
  unfold letsThrough at h
  split at h
  · exact .inl rfl
  · exact .inr rfl
  · cases h

variable {first second : Option Json} (h : kindOf first = kindOf second)
include h

theorem letsThrough_congr (rule : Schema) : rule.letsThrough first = rule.letsThrough second := by
  rw [Bool.eq_iff_iff]
  constructor
  · intro ht
    rwa [← eq_of_kindOf_eq h (eq_of_letsThrough ht)]
  · intro ht
    rwa [← eq_of_kindOf_eq h.symm (eq_of_letsThrough ht)]

/-- The rule that decides depends on no more than the kind, and so do the layers around it. -/
theorem decider_congr (rule : Schema) :
    rule.decider first = rule.decider second ∧ rule.layersOver first = rule.layersOver second := by
  induction rule with
  | primitive rule hp =>
    have hb := isBase_of_primitive hp
    simp only [decider_of_isBase hb, layersOver_of_isBase hb, and_self]
  | construct fields _ => exact ⟨rfl, rfl⟩
  | array item _ => exact ⟨rfl, rfl⟩
  | layer inner rule hl ih =>
    have hsame := letsThrough_congr h rule
    by_cases ht : rule.letsThrough first = true
    · have hs : rule.letsThrough second = true := hsame ▸ ht
      rw [hl.decider_of_letsThrough ht, hl.decider_of_letsThrough hs, hl.layersOver_of_letsThrough ht,
        hl.layersOver_of_letsThrough hs]
      exact ⟨rfl, rfl⟩
    · have hn : rule.letsThrough first = false := by simpa using ht
      have hs : rule.letsThrough second = false := hsame ▸ hn
      rw [hl.decider hn, hl.decider hs, hl.layersOver hn, hl.layersOver hs]
      exact ⟨ih.1, congrArg (· + 1) ih.2⟩

end Schema

namespace Alike

variable {rule : Schema} {first second : Option Json}

theorem kindOf_eq (h : Alike rule first second) : kindOf first = kindOf second := by
  induction h with
  | unfit hk _ => exact hk
  | primitive | construct | array => rfl
  | layer _ _ ih => exact ih

/-! ## Reports -/

/-- Where the kind is not the one that is wanted, nothing further in is looked at. -/
theorem scan_unfit (hk : kindOf first = kindOf second) (hu : kindOf first ≠ rule.expected) (cap depth : Nat) :
    scan cap rule first depth = scan cap rule second depth := by
  obtain ⟨hdecider, hlayers⟩ := rule.decider_congr hk
  simp only [scan, found, hlayers, hdecider, Schema.letsThrough_congr hk, if_neg hu, ← hk]

/-- A place beyond the cap is reported with its kind, so it remains to compare places within it. -/
theorem scan_eq_of_le {cap depth : Nat} (hk : kindOf first = kindOf second)
    (h : depth ≤ cap → scan cap rule first depth = scan cap rule second depth) :
    scan cap rule first depth = scan cap rule second depth := by
  by_cases hc : cap < depth
  · rw [scan_of_lt hc, scan_of_lt hc, hk]
  · exact h (by omega)

/-- **Alike inputs have the same report**, in the same order, under every cap. -/
theorem scan_eq (h : Alike rule first second) (cap depth : Nat) :
    scan cap rule first depth = scan cap rule second depth := by
  -- the depth grows on the way in, so it is generalized
  induction h generalizing depth with
  | unfit hk hu => exact scan_unfit hk hu cap depth
  | primitive => rfl
  | construct _ ih =>
    refine scan_eq_of_le rfl fun hc => ?_
    rw [scan_construct hc, scan_construct hc]
    refine congrArg Report.gather (List.map_congr_left fun field hf => ?_)
    rw [ih field hf]
  | array hl _ ih =>
    refine scan_eq_of_le rfl fun hc => ?_
    rw [scan_array hc, scan_array hc]
    refine congrArg Report.gather (map_zipIdx_eq_of_zip (f := fun value => scan cap _ (some value) _) hl ?_)
    exact fun pair hp => ih pair hp (depth + 1)
  | @layer inner rule hl first second h ih =>
    refine scan_eq_of_le h.kindOf_eq fun hc => ?_
    have hsame := Schema.letsThrough_congr h.kindOf_eq rule
    by_cases ht : rule.letsThrough first = true
    · rw [scan_of_letsThrough ht hc, scan_of_letsThrough (hsame ▸ ht) hc]
    · have hn : rule.letsThrough first = false := by simpa using ht
      rw [scan_layer_eq_spokenFor hl hn, scan_layer_eq_spokenFor hl (hsame ▸ hn), ih, h.kindOf_eq]

/-! ## Outputs -/

/-- **Alike inputs that conform are pruned to the same value.** -/
theorem prune_eq (h : Alike rule first second) (hc : Conforms rule first) :
    first.map rule.prune = second.map rule.prune := by
  -- alike inputs differ only where both are of the wrong kind, and there neither conforms
  induction h with
  | unfit hk hu =>
    rcases hc.kindOf_eq with he | hm
    · exact absurd he hu
    · rw [eq_of_kindOf_eq hk hm]
  | primitive => rfl
  | @construct fields members others _ ih =>
    obtain ⟨_, he, hfields⟩ := conforms_construct_iff.mp hc
    obtain rfl := Json.object.inj (Option.some.inj he)
    have hpruned : Schema.pruneFields fields members = Schema.pruneFields fields others := by
      rw [Schema.pruneFields_eq_filterMap, Schema.pruneFields_eq_filterMap]
      exact List.filterMap_congr fun field hf => congrArg _ (ih field hf (hfields field hf))
    simp only [Option.map_some, Schema.prune, hpruned]
  | @array item items others hl _ ih =>
    obtain ⟨_, he, hitems⟩ := conforms_array_iff.mp hc
    obtain rfl := Json.array.inj (Option.some.inj he)
    have hpruned : items.map item.prune = others.map item.prune := map_eq_of_zip hl fun pair hp =>
      Option.some.inj (ih pair hp (hitems pair.1 (List.of_mem_zip hp).1))
    simp only [Option.map_some, Schema.prune, hpruned]
  | @layer inner rule hl first second h ih =>
    have hprune : rule.prune = inner.prune := funext hl.prune
    rw [hprune]
    by_cases ht : rule.letsThrough first = true
    · rw [eq_of_kindOf_eq h.kindOf_eq (Schema.eq_of_letsThrough ht)]
    · exact ih ((conforms_layer_iff hl (by simpa using ht)).mp hc)

end Alike

/-- **A check does not depend on what the schema does not declare**: of inputs that are alike it makes the
same value, with the same order of members, or the same report, in the same order. -/
theorem parse_eq_of_alike {rule : Schema} {first second : Option Json} (h : Alike rule first second)
    (cap : Nat) : rule.parse first cap = rule.parse second cap := by
  rw [parse_eq, parse_eq, ← h.scan_eq]
  by_cases hs : scan cap rule first 1 = []
  · rw [if_pos hs, if_pos hs, h.prune_eq (conforms_of_scan_eq_nil hs)]
  · rw [if_neg hs, if_neg hs]

/-- The two documents differ in a member that is not declared, in the order of the others, and in what stands
where a string and where a truth value is wanted. -/
theorem parse_eq_of_alike_sample :
    let rule : Schema := .construct [("id", .number), ("pet", .nullable (.construct [("name", .string)])),
      ("tags", .array .boolean)]
    let first : Json := .object [("age", .null), ("id", .number (.integer 7)),
      ("pet", .object [("name", .array [])]), ("tags", .array [.bool true, .string "a"])]
    let second : Json := .object [("tags", .array [.bool true, .string "b"]),
      ("pet", .object [("name", .array [.null])]), ("id", .number (.integer 7))]
    Alike rule (some first) (some second) ∧
      rule.parse (some second) 4 = .error [⟨.invalidType, .string, .array, [.field "pet", .field "name"]⟩,
        ⟨.invalidType, .boolean, .string, [.field "tags", .index 1]⟩] := by
  intro rule first second
  have hpet : Alike (.construct [("name", .string)]) (some (.object [("name", .array [])]))
      (some (.object [("name", .array [.null])])) := by
    refine .construct ?_
    simp only [List.forall_mem_cons]
    exact ⟨.unfit rfl (by decide), by simp⟩
  have htags : Alike (.array .boolean) (some (.array [.bool true, .string "a"]))
      (some (.array [.bool true, .string "b"])) := by
    refine .array rfl ?_
    simp only [List.zip_cons_cons, List.forall_mem_cons]
    exact ⟨.primitive rfl _, .unfit rfl (by decide), by simp⟩
  have halike : Alike rule (some first) (some second) := by
    refine .construct ?_
    simp only [List.forall_mem_cons]
    exact ⟨.primitive rfl _, .layer .nullable hpet, htags, by simp⟩
  exact ⟨halike, (parse_eq_of_alike halike 4).symm.trans rfl⟩

end JsonShape
