import JsonShape.Proofs.Validation.Parse
import JsonShape.Proofs.Validation.Pruning
import Mathlib.Data.List.Nodup
import Mathlib.Data.List.Perm.Subperm
import Mathlib.Tactic.Choose

/-!
# Schemas that differ in the order of fields

`Schema.same` takes no account of the order in which a record declares its fields, at any level.  Such
schemas let the same inputs through, and of each of them they make the same document up to the order of members
(`Json.same`).  Their reports have the same mismatches, in another order: a layer speaks for the rule inside
depending on which mismatches there are, and not on their order (`Report.spokenFor_perm`).
-/

namespace JsonShape

namespace Json

mutual

/-- Whether two documents have the same values, whatever the order of members. -/
def same : Json → Json → Bool
  | null, null => true
  | bool b, bool c => b == c
  | number n, number m => n == m
  | string s, string t => s == t
  | array items, array others => sameItems items others
  | object members, object others => members.length == others.length && sameMembers members others
  | _, _ => false

def sameItems : List Json → List Json → Bool
  | [], [] => true
  | item :: rest, other :: others => same item other && sameItems rest others
  | _, _ => false

/-- Whether each member is also among the others, with the same value. -/
def sameMembers : List (String × Json) → List (String × Json) → Bool
  | [], _ => true
  | (name, value) :: rest, others =>
    (match Members.get? name others with
      | some other => same value other
      | none => false) && sameMembers rest others

end

theorem sameMembers_iff {members others : List (String × Json)} :
    sameMembers members others = true ↔ ∀ member ∈ members, ∃ other,
      Members.get? member.1 others = some other ∧ member.2.same other = true := by
  induction members with
  | nil => simp [sameMembers]
  | cons member rest ih =>
    rw [sameMembers, Bool.and_eq_true, ih, List.forall_mem_cons]
    cases Members.get? member.1 others <;> simp

theorem sameItems_map {items : List Json} {f g : Json → Json}
    (h : ∀ item ∈ items, (f item).same (g item) = true) : sameItems (items.map f) (items.map g) = true := by
  induction items with
  | nil => rfl
  | cons item rest ih =>
    obtain ⟨hitem, hrest⟩ := List.forall_mem_cons.mp h
    rw [List.map_cons, List.map_cons, sameItems, hitem, ih hrest]
    rfl

/-- A document that is no array and no object is the same as itself. -/
theorem same_self {document : Json} (ha : document.kind ≠ .array) (ho : document.kind ≠ .object) :
    document.same document = true := by
  cases document with
  | array items => exact absurd rfl ha
  | object members => exact absurd rfl ho
  | null | bool | number | string => simp [same]

end Json

/-! ## Schemas that are the same -/

/-- Entries that are all found among others, of which there are no more, are these in another order. -/
theorem Members.perm_of_get? {α β : Type} {entries : List (String × α)} {others : List (String × β)}
    (hn : (names entries).Nodup) (hl : others.length ≤ entries.length) {value : String × α → β}
    (h : ∀ entry ∈ entries, get? entry.1 others = some (value entry)) :
    (entries.map fun entry => (entry.1, value entry)).Perm others := by
  have hnodup : (entries.map fun entry => (entry.1, value entry)).Nodup := by
    refine List.Nodup.of_map Prod.fst ?_
    rwa [List.map_map]
  have hsubset : (entries.map fun entry => (entry.1, value entry)) ⊆ others :=
    List.forall_mem_map.mpr fun entry he => mem_of_get? (h entry he)
  exact (List.subperm_of_subset hnodup hsubset).perm_of_length_le (by simpa using hl)

namespace Schema

theorem sameFields_iff {fields others : List (String × Schema)} :
    sameFields fields others = true ↔ ∀ field ∈ fields, ∃ other,
      Members.get? field.1 others = some other ∧ field.2.same other = true := by
  induction fields with
  | nil => simp [sameFields]
  | cons field rest ih =>
    rw [sameFields, Bool.and_eq_true, ih, List.forall_mem_cons]
    cases Members.get? field.1 others <;> simp

theorem eq_of_same {rule other : Schema} (hp : rule.isPrimitive) (h : rule.same other = true) :
    other = rule := by
  cases rule with
  | string | number | boolean => cases other <;> first | rfl | cases h
  | construct | optional | nullable | array => cases hp

/-- The record that is the same declares the same names, each with a rule that is the same. -/
theorem exists_fields_of_same {fields : List (String × Schema)} {other : Schema}
    (h : (construct fields).same other = true) (hn : (Members.names fields).Nodup) :
    ∃ (others : List (String × Schema)) (partner : String × Schema → Schema), other = construct others ∧
      (fields.map fun field => (field.1, partner field)).Perm others ∧
      ∀ field ∈ fields, field.2.same (partner field) = true := by
  cases other with
  | construct others =>
    rw [same, Bool.and_eq_true, beq_iff_eq, sameFields_iff] at h
    obtain ⟨hl, hfields⟩ := h
    have : Nonempty Schema := ⟨string⟩
    choose! partner hget hsame using hfields
    exact ⟨others, partner, rfl, Members.perm_of_get? hn (Nat.le_of_eq hl.symm) hget, hsame⟩
  | _ => cases h

theorem exists_item_of_same {item other : Schema} (h : (array item).same other = true) :
    ∃ partner, other = array partner ∧ item.same partner = true := by
  cases other with
  | array partner => exact ⟨partner, rfl, h⟩
  | _ => cases h

end Schema

/-- A layer is the same as a layer of its kind around a rule that is the same. -/
theorem LayerOver.exists_of_same {inner rule other : Schema} (hl : LayerOver inner rule)
    (h : rule.same other = true) : ∃ partner, LayerOver partner other ∧ inner.same partner = true ∧
      other.complaint = rule.complaint ∧ ∀ input, other.letsThrough input = rule.letsThrough input := by
  cases hl with
  | optional =>
    cases other with
    | optional partner => exact ⟨partner, .optional, h, rfl, fun input => by cases input <;> rfl⟩
    | _ => cases h
  | nullable =>
    cases other with
    | nullable partner =>
      exact ⟨partner, .nullable, h, rfl, fun input => by rcases input with _ | _ | _ <;> rfl⟩
    | _ => cases h

theorem Schema.expected_eq_of_same {rule other : Schema} (h : rule.same other = true) :
    other.expected = rule.expected := by
  induction rule generalizing other with
  | primitive rule hp => rw [eq_of_same hp h]
  | construct fields _ => cases other <;> first | rfl | cases h
  | array item _ => cases other <;> first | rfl | cases h
  | layer inner rule hl ih =>
    obtain ⟨partner, hp, hsame, -⟩ := hl.exists_of_same h
    rw [hp.expected, hl.expected, ih hsame]

/-! ## Reports -/

namespace Report

theorem gather_perm {branches others : List (Step × Report)} (h : branches.Perm others) :
    (gather branches).Perm (gather others) :=
  h.flatMap_right _

theorem gather_map_perm {ι : Type} {places : List ι} {step : ι → Step} {first second : ι → Report}
    (h : ∀ x ∈ places, (first x).Perm (second x)) :
    (gather (places.map fun x => (step x, first x))).Perm
      (gather (places.map fun x => (step x, second x))) := by
  simp only [gather, List.flatMap_map]
  exact List.Perm.flatMap_left places fun x hx => (h x hx).map _

/-- Whether a layer speaks for a report does not depend on its order. -/
theorem spokenFor_perm {report other : Report} (h : report.Perm other) (complaint : Complaint)
    (expected received : Kind) :
    (report.spokenFor complaint expected received).Perm (other.spokenFor complaint expected received) := by
  rw [spokenFor, spokenFor, h.isEmpty_eq, h.all_eq]
  split
  · exact .refl _
  split
  · exact .refl _
  · exact h

end Report

theorem scan_perm_of_le {cap depth : Nat} {rule other : Schema} (h : rule.same other = true)
    {input : Option Json}
    (hle : depth ≤ cap → (scan cap rule input depth).Perm (scan cap other input depth)) :
    (scan cap rule input depth).Perm (scan cap other input depth) := by
  by_cases hc : cap < depth
  · rw [scan_of_lt hc, scan_of_lt hc, Schema.expected_eq_of_same h]
  · exact hle (by omega)

/-- **Schemas that are the same report the same mismatches**, in some order. -/
theorem scan_perm {rule other : Schema} (h : rule.same other = true) (hd : rule.Distinct) (cap : Nat)
    (input : Option Json) (depth : Nat) :
    (scan cap rule input depth).Perm (scan cap other input depth) := by
  -- the cap is the same for both, as they are of the same depth; below it each form has its own case
  induction rule generalizing other input depth with
  | primitive rule hp => rw [Schema.eq_of_same hp h]
  | construct fields ih =>
    refine scan_perm_of_le h fun hc => ?_
    obtain ⟨others, partner, rfl, hperm, hsame⟩ := Schema.exists_fields_of_same h hd.1
    by_cases hk : kindOf input = .object
    · obtain ⟨members, rfl⟩ := kindOf_eq_object_iff.mp hk
      let branch : String × Schema → Step × Report := fun field =>
        (.field field.1, scan cap field.2 (Members.get? field.1 members) (depth + 1))
      rw [scan_construct hc, scan_construct hc]
      -- first the rule of each field is replaced by its partner, then the fields are permuted
      have hrules : (Report.gather (fields.map branch)).Perm
          (Report.gather ((fields.map fun field => (field.1, partner field)).map branch)) := by
        rw [List.map_map]
        refine Report.gather_map_perm fun field hf => ?_
        exact ih field hf (hsame field hf) (Schema.distinctFields_iff.mp hd.2 field hf) _ _
      exact hrules.trans (Report.gather_perm (hperm.map branch))
    · rw [scan_of_kind_ne rfl hc hk, scan_of_kind_ne rfl hc hk]
      rfl
  | array item ih =>
    refine scan_perm_of_le h fun hc => ?_
    obtain ⟨partner, rfl, hsame⟩ := Schema.exists_item_of_same h
    by_cases hk : kindOf input = .array
    · obtain ⟨items, rfl⟩ := kindOf_eq_array_iff.mp hk
      rw [scan_array hc, scan_array hc]
      exact Report.gather_map_perm fun entry _ => ih hsame hd _ _
    · rw [scan_of_kind_ne rfl hc hk, scan_of_kind_ne rfl hc hk]
      rfl
  | layer inner rule hl ih =>
    refine scan_perm_of_le h fun hc => ?_
    obtain ⟨partner, hp, hsame, hcomplaint, hlets⟩ := hl.exists_of_same h
    by_cases ht : rule.letsThrough input = true
    · rw [scan_of_letsThrough ht hc, scan_of_letsThrough ((hlets input).trans ht) hc]
    · have hn : rule.letsThrough input = false := by simpa using ht
      rw [scan_layer_eq_spokenFor hl hn, scan_layer_eq_spokenFor hp ((hlets input).trans hn), hcomplaint,
        Schema.expected_eq_of_same hsame]
      exact Report.spokenFor_perm (ih hsame (hl.distinct hd) input (depth + 1)) _ _ _

/-! ## Outputs -/

namespace Schema

/-- A pruned record has as many members, whatever the order of fields. -/
theorem length_pruneFields_of_perm {fields others : List (String × Schema)}
    (h : (Members.names fields).Perm (Members.names others)) (members : List (String × Json)) :
    (pruneFields fields members).length = (pruneFields others members).length := by
  have hnames : ∀ rules : List (String × Schema), (pruneFields rules members).length =
      ((Members.names rules).filter fun name => (Members.get? name members).isSome).length := by
    intro rules
    rw [← names_pruneFields, Members.names, List.length_map]
  rw [hnames, hnames, (h.filter _).length_eq]

/-- **Schemas that are the same make the same of what conforms**, up to the order of members. -/
theorem prune_same {rule other : Schema} (h : rule.same other = true) (hd : rule.Distinct) {document : Json}
    (hc : Conforms rule (some document)) : (rule.prune document).same (other.prune document) = true := by
  induction rule generalizing other document with
  | primitive rule hp =>
    have hk : document.kind = rule.expected := (conforms_primitive_iff hp).mp hc
    have hne : rule.expected ≠ .array ∧ rule.expected ≠ .object := by
      cases rule <;> first | decide | cases hp
    rw [eq_of_same hp h, prune_of_primitive hp]
    exact Json.same_self (hk ▸ hne.1) (hk ▸ hne.2)
  | construct fields ih =>
    obtain ⟨others, partner, rfl, hperm, hsame⟩ := exists_fields_of_same h hd.1
    obtain ⟨members, he, hfields⟩ := conforms_construct_iff.mp hc
    obtain rfl := Option.some.inj he
    have hnames : (Members.names fields).Perm (Members.names others) := by
      have := hperm.map Prod.fst
      rwa [List.map_map] at this
    have hothers : (Members.names others).Nodup := hnames.nodup_iff.mp hd.1
    rw [prune, prune, Json.same, Bool.and_eq_true, beq_iff_eq, Json.sameMembers_iff]
    -- as many members on both sides, and each of the first is found among the second by its name
    refine ⟨length_pruneFields_of_perm hnames members, fun member hm => ?_⟩
    rw [pruneFields_eq_filterMap, List.mem_filterMap] at hm
    obtain ⟨field, hf, hmember⟩ := hm
    obtain ⟨pruned, hpruned, rfl⟩ := Option.map_eq_some_iff.mp hmember
    obtain ⟨value, hv, rfl⟩ := Option.map_eq_some_iff.mp hpruned
    have hpartner : (field.1, partner field) ∈ others :=
      hperm.mem_iff.mp (List.mem_map_of_mem (f := fun field => (field.1, partner field)) hf)
    refine ⟨(partner field).prune value, ?_, ?_⟩
    · rw [get?_pruneFields hothers hpartner, hv]
      rfl
    · have hfield := hfields field hf
      rw [hv] at hfield
      exact ih field hf (hsame field hf) (distinctFields_iff.mp hd.2 field hf) hfield
  | array item ih =>
    obtain ⟨partner, rfl, hsame⟩ := exists_item_of_same h
    obtain ⟨items, he, hitems⟩ := conforms_array_iff.mp hc
    obtain rfl := Option.some.inj he
    rw [prune, prune, Json.same]
    exact Json.sameItems_map fun value hv => ih hsame hd (hitems value hv)
  | layer inner rule hl ih =>
    obtain ⟨partner, hp, hsame, -⟩ := hl.exists_of_same h
    rw [hl.prune, hp.prune]
    by_cases hn : document = .null
    · subst hn
      rw [prune_eq_null_iff.mpr rfl, prune_eq_null_iff.mpr rfl]
      rfl
    · exact ih hsame (hl.distinct hd) ((hl.conforms_iff_of_ne_null hn).mp hc)

end Schema

/-- **Schemas that are the same validate alike**: under every cap they accept the same inputs, make the same
of them up to the order of members, and report the same mismatches up to their order. -/
theorem parse_of_same {rule other : Schema} (h : rule.same other = true) (hd : rule.Distinct)
    (input : Option Json) (cap : Nat) :
    ((∃ out, rule.parse input cap = .ok out) ↔ ∃ out, other.parse input cap = .ok out) ∧
      (∀ out out', rule.parse input cap = .ok out → other.parse input cap = .ok out' →
        Option.Rel (fun value value' => value.same value' = true) out out') ∧
      ∀ report report', rule.parse input cap = .error report → other.parse input cap = .error report' →
        report.Perm report' := by
  -- everything is read off the scans: a value is given just if there is no mismatch
  have hperm := scan_perm h hd cap input 1
  have hnil : scan cap rule input 1 = [] ↔ scan cap other input 1 = [] := by
    constructor
    · intro hs
      rw [hs] at hperm
      exact hperm.nil_eq.symm
    · intro hs
      rw [hs] at hperm
      exact hperm.eq_nil
  refine ⟨?_, ?_, ?_⟩
  · simp only [parse_eq_ok_iff, exists_and_left, exists_eq, and_true, hnil]
  · intro out out' ho ho'
    obtain ⟨hs, rfl⟩ := parse_eq_ok_iff.mp ho
    obtain ⟨-, rfl⟩ := parse_eq_ok_iff.mp ho'
    cases input with
    | none => exact .none
    | some document => exact .some (Schema.prune_same h hd (conforms_of_scan_eq_nil hs))
  · intro report report' hr hr'
    obtain ⟨rfl, -⟩ := parse_eq_error_iff.mp hr
    obtain ⟨rfl, -⟩ := parse_eq_error_iff.mp hr'
    exact hperm

/-- Two records that declare their fields in another order, and so does the record inside. -/
theorem parse_of_same_sample :
    let rule : Schema := .construct [("id", .number),
      ("pet", .optional (.construct [("name", .string), ("tame", .boolean)]))]
    let other : Schema := .construct [
      ("pet", .optional (.construct [("tame", .boolean), ("name", .string)])), ("id", .number)]
    let input : Json := .object [("pet", .object [("name", .null)])]
    rule.same other = true ∧ rule.Distinct ∧
      rule.parse (some input) 4 = .error [⟨.invalidType, .number, .missing, [.field "id"]⟩,
        ⟨.invalidType, .string, .null, [.field "pet", .field "name"]⟩,
        ⟨.invalidType, .boolean, .missing, [.field "pet", .field "tame"]⟩] ∧
      ∀ report, other.parse (some input) 4 = .error report → List.Perm
        [⟨.invalidType, .number, .missing, [.field "id"]⟩,
          ⟨.invalidType, .string, .null, [.field "pet", .field "name"]⟩,
          ⟨.invalidType, .boolean, .missing, [.field "pet", .field "tame"]⟩] report := by
  intro rule other input
  have hsame : rule.same other = true := by decide
  have hd : rule.Distinct := by
    simp [rule, Schema.Distinct, Schema.DistinctFields, Members.names]
  -- the report in the order of the first schema
  have hparse : rule.parse (some input) 4 = .error [⟨.invalidType, .number, .missing, [.field "id"]⟩,
        ⟨.invalidType, .string, .null, [.field "pet", .field "name"]⟩,
        ⟨.invalidType, .boolean, .missing, [.field "pet", .field "tame"]⟩] := rfl
  exact ⟨hsame, hd, hparse, fun report hr => (parse_of_same hsame hd (some input) 4).2.2 _ report hparse hr⟩

end JsonShape
