import Mathlib.Logic.Function.Iterate
import Mathlib.Order.MinMax
import JsonShape.Proofs.Schema.Descriptor
import JsonShape.Proofs.Schema.Enclosed

/-!
# Descriptors that are read and written again

A schema that was read from a text names no field of a record twice (`distinct_of_rule`), so the only thing that
can keep its own text from being read back is the number of levels.  A text may leave out the fields of a record
without any, while the text that is written has an object for them, one level further in.  So a schema does not
read back just if it has an empty record at the last level that a document may have (`saved_descriptor_reads`),
and there are such schemas (`saved_too_deep`).

* `Json.values` are the values directly inside a document, and `ReadWithin` says which of them the inside of a
  rule was read from.
* `Schema.EmptyAt` is the level of an empty record in the text that is written.
-/

namespace JsonShape

open Json

namespace Json

/-- The values directly inside a document. -/
def values : Json → List Json
  | array items => items
  | object members => members.map Prod.snd
  | _ => []

theorem nesting_lt_of_mem_values {document value : Json} (h : value ∈ document.values) :
    value.nesting < document.nesting := by
  cases document with
  | array items => exact Nat.lt_succ_of_le (nestingItems_le_iff.mp (Nat.le_refl _) value h)
  | object members =>
    obtain ⟨member, hm, rfl⟩ := List.mem_map.mp h
    exact Nat.lt_succ_of_le (nestingMembers_le_iff.mp (Nat.le_refl _) member hm)
  | null | bool | number | string => cases h

theorem mem_values_of_mem_every {name : String} {value : Json} {entries : List (String × Json)}
    (h : value ∈ Members.every name entries) : value ∈ (object entries).values :=
  List.mem_map_of_mem (Members.mem_of_mem_every h)

end Json

namespace Descriptor

/-! ## What a rule is read from -/

/-- The inside of a rule that was read from a document was read from a value inside the document. -/
inductive ReadWithin (document : Json) : Schema → Prop
  | primitive {schema : Schema} (hp : schema.isPrimitive) : ReadWithin document schema
  | around {schema inner : Schema} {value : Json} (hr : schema.child? = some inner)
      (hv : value ∈ document.values) (h : rule value = .ok inner) : ReadWithin document schema
  | record {fields : List (String × Schema)} {listed : List (String × Json)}
      (hv : .object listed ∈ document.values) (h : fieldRules [] listed = .ok fields) :
      ReadWithin document (.construct fields)
  | leftOut : ReadWithin document (.construct [])

theorem onlyTag_eq_ok {rest : List Json} {base schema : Schema} (h : onlyTag rest base = .ok schema) :
    schema = base := by
  unfold onlyTag at h
  split at h
  · exact (Except.ok.inj h).symm
  · cases h

theorem onlyOne_eq_ok {α : Type} {rest : List Json} {result found : α} (h : onlyOne rest result = .ok found) :
    found = result := by
  unfold onlyOne at h
  split at h
  · exact (Except.ok.inj h).symm
  · cases h

theorem fieldsOf_eq_ok {document : Json} {fields : List (String × Schema)} (h : fieldsOf document = .ok fields) :
    ∃ listed, document = .object listed ∧ fieldRules [] listed = .ok fields := by
  cases document with
  | object listed => exact ⟨listed, rfl, h⟩
  | null | bool | number | string | array => cases h

theorem innerAmong_eq_ok {entries : List (String × Json)} {inner : Schema}
    (h : innerAmong entries = .ok inner) : ∃ value ∈ (object entries).values, rule value = .ok inner := by
  rw [innerAmong_eq_readOnly] at h
  obtain ⟨value, hvalue, hread⟩ := every_of_readOnly h
  exact ⟨value, mem_values_of_mem_every (hvalue ▸ List.mem_singleton_self value), hread⟩

theorem innerIn_eq_ok {form : Form} {rest : List Json} {inner : Schema} (h : innerIn form rest = .ok inner) :
    ∃ value ∈ rest, rule value = .ok inner := by
  cases rest with
  | nil => cases h
  | cons value others =>
    rw [innerIn] at h
    obtain ⟨found, hfound, h⟩ := bind_eq_ok_iff.mp h
    obtain rfl := onlyOne_eq_ok h
    exact ⟨value, List.mem_cons_self, hfound⟩

theorem readWithin_of_fieldsAmong {entries : List (String × Json)} {fields : List (String × Schema)}
    (h : fieldsAmong entries = .ok fields) : ReadWithin (.object entries) (.construct fields) := by
  rw [fieldsAmong_eq_readOnly] at h
  rcases readOnly_eq_ok h with ⟨-, hnone⟩ | ⟨value, hvalue, hread⟩
  · cases hnone
    exact .leftOut
  · obtain ⟨listed, rfl, hfields⟩ := fieldsOf_eq_ok hread
    exact .record (mem_values_of_mem_every (hvalue ▸ List.mem_singleton_self _)) hfields

theorem readWithin_of_fieldsIn {tag : Json} {rest : List Json} {fields : List (String × Schema)}
    (h : fieldsIn rest = .ok fields) : ReadWithin (.array (tag :: rest)) (.construct fields) := by
  cases rest with
  | nil =>
    cases h
    exact .leftOut
  | cons value others =>
    rw [fieldsIn] at h
    obtain ⟨found, hfound, h⟩ := bind_eq_ok_iff.mp h
    obtain rfl := onlyOne_eq_ok h
    obtain ⟨listed, rfl, hfields⟩ := fieldsOf_eq_ok hfound
    exact .record (List.mem_cons_of_mem _ List.mem_cons_self) hfields

theorem readWithin_of_object {entries : List (String × Json)} {schema : Schema}
    (h : rule (.object entries) = .ok schema) : ReadWithin (.object entries) schema := by
  rw [rule] at h
  obtain ⟨form, -, h⟩ := bind_eq_ok_iff.mp h
  cases form with
  | string | number | boolean =>
    cases h
    exact .primitive rfl
  | construct =>
    obtain ⟨fields, hfields, h⟩ := bind_eq_ok_iff.mp h
    cases h
    exact readWithin_of_fieldsAmong hfields
  | optional | nullable | array =>
    obtain ⟨inner, hinner, h⟩ := bind_eq_ok_iff.mp h
    cases h
    obtain ⟨value, hv, hread⟩ := innerAmong_eq_ok hinner
    exact .around rfl hv hread

theorem readWithin_of_array {tag : Json} {rest : List Json} {schema : Schema}
    (h : rule (.array (tag :: rest)) = .ok schema) : ReadWithin (.array (tag :: rest)) schema := by
  rw [rule] at h
  obtain ⟨form, -, h⟩ := bind_eq_ok_iff.mp h
  cases form with
  | string | number | boolean =>
    obtain rfl := onlyTag_eq_ok h
    exact .primitive rfl
  | construct =>
    obtain ⟨fields, hfields, h⟩ := bind_eq_ok_iff.mp h
    cases h
    exact readWithin_of_fieldsIn hfields
  | optional | nullable | array =>
    obtain ⟨inner, hinner, h⟩ := bind_eq_ok_iff.mp h
    cases h
    obtain ⟨value, hv, hread⟩ := innerIn_eq_ok hinner
    exact .around rfl (List.mem_cons_of_mem _ hv) hread

/-- **A rule is read from an object or an array**, and its inside from a value in there. -/
theorem readWithin_of_rule {document : Json} {schema : Schema} (h : rule document = .ok schema) :
    0 < document.nesting ∧ ReadWithin document schema := by
  cases document with
  | object entries => exact ⟨Nat.succ_pos _, readWithin_of_object h⟩
  | array elements =>
    cases elements with
    | nil => cases h
    | cons tag rest => exact ⟨Nat.succ_pos _, readWithin_of_array h⟩
  | null | bool | number | string => cases h

/-- Fields that are read have names that are new and pairwise different, and each is read from a member. -/
theorem fieldRules_eq_ok {names : List String} {listed : List (String × Json)}
    {fields : List (String × Schema)} (h : fieldRules names listed = .ok fields) :
    (∀ name ∈ Members.names fields, name ∉ names) ∧ (Members.names fields).Nodup ∧
      ∀ field ∈ fields, ∃ value ∈ (object listed).values, rule value = .ok field.2 := by
  -- the names read so far are generalized: the first name is one of them for the others
  induction listed generalizing names fields with
  | nil =>
    cases h
    simp [Members.names]
  | cons member rest ih =>
    obtain ⟨name, document⟩ := member
    rw [fieldRules] at h
    split at h
    · cases h
    rename_i hname
    obtain ⟨field, hfield, h⟩ := bind_eq_ok_iff.mp h
    obtain ⟨others, hothers, h⟩ := bind_eq_ok_iff.mp h
    cases h
    obtain ⟨hnew, hnodup, hread⟩ := ih hothers
    refine ⟨?_, ?_, ?_⟩
    · intro other ho hm
      rcases List.mem_cons.mp ho with rfl | ho
      · exact hname hm
      · exact hnew other ho (List.mem_cons_of_mem _ hm)
    · exact List.nodup_cons.mpr ⟨fun hm => hnew name hm List.mem_cons_self, hnodup⟩
    · intro other ho
      rcases List.mem_cons.mp ho with rfl | ho
      · exact ⟨document, List.mem_cons_self, hfield⟩
      · obtain ⟨value, hv, hvalue⟩ := hread other ho
        exact ⟨value, List.mem_cons_of_mem _ hv, hvalue⟩

/-- What is inside a rule is read one level further in. -/
theorem inner_of_rule {document : Json} {schema inner : Schema} (hr : schema.child? = some inner)
    (h : rule document = .ok schema) : ∃ value, value.nesting + 1 ≤ document.nesting ∧ rule value = .ok inner := by
  cases (readWithin_of_rule h).2 with
  | primitive hp =>
    rw [Schema.child?_of_primitive hp] at hr
    cases hr
  | around hr' hv hread =>
    obtain rfl := Option.some.inj (hr.symm.trans hr')
    exact ⟨_, nesting_lt_of_mem_values hv, hread⟩
  | record => cases hr
  | leftOut => cases hr

/-- The fields of a record are read two levels further in, and no name is repeated. -/
theorem fields_of_rule {document : Json} {fields : List (String × Schema)}
    (h : rule document = .ok (.construct fields)) : (Members.names fields).Nodup ∧
      ∀ field ∈ fields, ∃ value, value.nesting + 2 ≤ document.nesting ∧ rule value = .ok field.2 := by
  cases (readWithin_of_rule h).2 with
  | primitive hp => cases hp
  | around hr _ _ => cases hr
  | leftOut => exact ⟨List.nodup_nil, by simp⟩
  | record hlisted hfields =>
    obtain ⟨-, hnodup, hread⟩ := fieldRules_eq_ok hfields
    refine ⟨hnodup, ?_⟩
    intro field hf
    obtain ⟨value, hv, hvalue⟩ := hread field hf
    have hinner := nesting_lt_of_mem_values hv
    have houter := nesting_lt_of_mem_values hlisted
    exact ⟨value, by omega, hvalue⟩

/-- **No record of a schema that was read names a field twice.** -/
theorem distinct_of_rule {document : Json} {schema : Schema} (h : rule document = .ok schema) :
    schema.Distinct := by
  induction schema using Schema.induct_child generalizing document with
  | primitive schema hp =>
    cases schema with
    | string | number | boolean => trivial
    | construct | optional | nullable | array => cases hp
  | construct fields ih =>
    obtain ⟨hnodup, hread⟩ := fields_of_rule h
    refine ⟨hnodup, Schema.distinctFields_iff.mpr ?_⟩
    intro field hf
    obtain ⟨value, -, hvalue⟩ := hread field hf
    exact ih field hf hvalue
  | around inner schema hr ih =>
    obtain ⟨value, -, hvalue⟩ := inner_of_rule hr h
    exact (Schema.distinct_iff_child hr).mpr (ih hvalue)

end Descriptor

/-! ## Empty records -/

namespace Schema

/-- A record without fields stands at that level of the text that is written, whose outermost rule has level 1:
the inside of a rule is one level further in, the fields of a record are two. -/
inductive EmptyAt : Schema → Nat → Prop
  | here : EmptyAt (construct []) 1
  | around {schema inner : Schema} {level : Nat} (hr : schema.child? = some inner) (h : EmptyAt inner level) :
      EmptyAt schema (level + 1)
  | field {fields : List (String × Schema)} {field : String × Schema} {level : Nat} (hf : field ∈ fields)
      (h : EmptyAt field.2 level) : EmptyAt (construct fields) (level + 2)

theorem lt_describedLevelsOfFields_iff {fields : List (String × Schema)} {level : Nat} :
    level < describedLevelsOfFields fields ↔ ∃ field ∈ fields, level < field.2.describedLevels := by
  induction fields with
  | nil => simp [describedLevelsOfFields]
  | cons field rest ih => simp [describedLevelsOfFields, ih]

theorem describedLevels_of_child {schema inner : Schema} (h : schema.child? = some inner) :
    schema.describedLevels = inner.describedLevels + 1 := by
  cases schema with
  | optional | nullable | array =>
    cases h
    exact Nat.add_comm _ _
  | string | number | boolean | construct => cases h

/-- The fields of an empty record are written one level further in. -/
theorem EmptyAt.lt_describedLevels {schema : Schema} {level : Nat} (h : schema.EmptyAt level) :
    level < schema.describedLevels := by
  induction h with
  | here => decide
  | around hr _ ih =>
    rw [describedLevels_of_child hr]
    omega
  | field hf _ ih =>
    have := lt_describedLevelsOfFields_iff.mpr ⟨_, hf, ih⟩
    rw [describedLevels]
    omega

end Schema

/-- **What is written has more levels than what was read only for an empty record**, at the last of the levels
that were allowed. -/
theorem Descriptor.emptyAt_of_rule {document : Json} {schema : Schema} (h : rule document = .ok schema)
    {levels : Nat} (hl : document.nesting ≤ levels) (hs : levels < schema.describedLevels) :
    schema.EmptyAt levels := by
  have hpos := (readWithin_of_rule h).1
  induction schema using Schema.induct_child generalizing document levels with
  | primitive schema hp =>
    have hone : schema.describedLevels = 1 := by
      cases schema with
      | string | number | boolean => rfl
      | construct | optional | nullable | array => cases hp
    omega
  | construct fields ih =>
    rw [Schema.describedLevels] at hs
    -- with fields there was an object for them in what was read, without any there may have been none
    by_cases hempty : fields = []
    · subst hempty
      rw [Schema.describedLevelsOfFields] at hs
      obtain rfl : levels = 1 := by omega
      exact .here
    · have hread := (fields_of_rule h).2
      obtain ⟨first, hfirst⟩ := List.exists_mem_of_ne_nil fields hempty
      obtain ⟨value, hvalue, -⟩ := hread first hfirst
      obtain ⟨less, rfl⟩ : ∃ less, levels = less + 2 := ⟨levels - 2, by omega⟩
      have hless : less < Schema.describedLevelsOfFields fields := by omega
      obtain ⟨field, hf, hdeep⟩ := Schema.lt_describedLevelsOfFields_iff.mp hless
      obtain ⟨value, hvalue, hfield⟩ := hread field hf
      exact .field hf (ih field hf hfield (by omega) hdeep (readWithin_of_rule hfield).1)
  | around inner schema hr ih =>
    obtain ⟨value, hvalue, hread⟩ := inner_of_rule hr h
    rw [Schema.describedLevels_of_child hr] at hs
    obtain ⟨less, rfl⟩ : ∃ less, levels = less + 1 := ⟨levels - 1, by omega⟩
    exact .around hr (ih hread (by omega) (by omega) (readWithin_of_rule hread).1)

/-! ## Many layers -/

namespace Enclosure

variable (place : Enclosure) (n : Nat)

theorem spellsWhole_iterate {inner : Json} {source : String} (h : SpellsWhole inner source.toList) :
    SpellsWhole (place.document^[n] inner) (place.text^[n] source).toList := by
  induction n with
  | zero => exact h
  | succ n ih =>
    rw [Function.iterate_succ_apply', Function.iterate_succ_apply']
    exact (place.spells_text ih).whole

theorem rule_iterate {inner : Json} {schema : Schema} (h : Descriptor.rule inner = .ok schema) :
    Descriptor.rule (place.document^[n] inner) = .ok (place.schema^[n] schema) := by
  induction n with
  | zero => exact h
  | succ n ih =>
    rw [Function.iterate_succ_apply', Function.iterate_succ_apply', place.rule_document, ih]
    rfl

theorem tagged_iterate {inner : Json} (h : Descriptor.Tagged inner) :
    Descriptor.Tagged (place.document^[n] inner) := by
  cases n with
  | zero => exact h
  | succ n =>
    rw [Function.iterate_succ_apply']
    exact place.tagged _

theorem nesting_around_iterate (wrapper : Wrapper) (inner : Json) :
    ((around wrapper).document^[n] inner).nesting = n + inner.nesting := by
  induction n with
  | zero => exact (Nat.zero_add _).symm
  | succ n ih =>
    rw [Function.iterate_succ_apply', document]
    simp only [nesting, nestingMembers, ih]
    omega

end Enclosure

theorem Schema.EmptyAt.optional_iterate {schema : Schema} {level : Nat} (h : schema.EmptyAt level) (n : Nat) :
    (Schema.optional^[n] schema).EmptyAt (level + n) := by
  induction n with
  | zero => exact h
  | succ n ih =>
    rw [Function.iterate_succ_apply']
    exact .around rfl ih

/-! ## Schemas that are saved -/

/-- **A schema that was read reads back from its own text unless it has an empty record at the last level**
that a document may have.  It is the same schema then, with its fields in the same order, and otherwise the
levels of the text are at fault. -/
theorem saved_descriptor_reads {text : String} {schema : Schema} (h : Schema.ofDescriptor text = .ok schema) :
    (Schema.ofDescriptor schema.descriptorText = .ok schema ↔ ¬ schema.EmptyAt nestingLimit) ∧
    (schema.EmptyAt nestingLimit → ∃ bad,
      Schema.ofDescriptor schema.descriptorText = .error bad ∧ bad.fault = .tooDeep) := by
  obtain ⟨document, rest, -, hlevels, -, hrule⟩ := Schema.ofDescriptor_eq_ok_iff.mp h
  have hwritten := Schema.descriptorText_decides (Descriptor.distinct_of_rule hrule)
  have hempty : ¬ schema.describedLevels ≤ nestingLimit ↔ schema.EmptyAt nestingLimit := by
    rw [Nat.not_le]
    exact ⟨Descriptor.emptyAt_of_rule hrule hlevels, Schema.EmptyAt.lt_describedLevels⟩
  constructor
  · rw [hwritten.eq_ok_iff, ← hempty, not_not]
    exact and_iff_left rfl
  · intro he
    exact hwritten.2 (hempty.mpr he)

/-- Rules by their numbers and as arrays, and fields that are left out. -/
theorem saved_descriptor_reads_sample :
    let text := "\x7b\"of\":[3],\"type\":\"array\",\"note\":0\x7d "
    let schema : Schema := .array (.construct [])
    Schema.ofDescriptor text = .ok schema ∧ Schema.ofDescriptor schema.descriptorText = .ok schema := by
  intro text schema
  have hread : Schema.ofDescriptor text = .ok schema := by decide +kernel
  have hshallow : ¬ schema.EmptyAt nestingLimit := by
    intro he
    have := he.lt_describedLevels
    revert this
    decide
  exact ⟨hread, (saved_descriptor_reads hread).1.mpr hshallow⟩

/-- 126 layers around a record whose fields are left out are read, but what is written has one level too many. -/
theorem saved_too_deep :
    let text := (Enclosure.around .optional).text^[126] "\x7b\"type\":\"construct\"\x7d"
    let schema := Schema.optional^[126] (.construct [])
    Schema.ofDescriptor text = .ok schema ∧
      ∃ bad, Schema.ofDescriptor schema.descriptorText = .error bad ∧ bad.fault = .tooDeep := by
  intro text schema
  let layer : Enclosure := .around .optional
  let record : Json := .object [("type", .string "construct")]
  have hread : readWhole (value nestingLimit) "\x7b\"type\":\"construct\"\x7d" = .ok record := by decide +kernel
  have hbare : Descriptor.rule record = .ok (.construct []) := rfl
  have hspelled := layer.spellsWhole_iterate 126 (readWhole_value_iff.mp hread).1
  have hlevels := Enclosure.nesting_around_iterate 126 .optional record
  have hrule : Descriptor.rule (layer.document^[126] record) = .ok schema := layer.rule_iterate 126 hbare
  have hempty : schema.EmptyAt nestingLimit := Schema.EmptyAt.here.optional_iterate 126
  have hwritten := Schema.descriptorText_decides (Descriptor.distinct_of_rule hrule)
  refine ⟨?_, hwritten.2 (Nat.not_le.mpr hempty.lt_describedLevels)⟩
  exact (Schema.ofDescriptor_whole_eq_ok_iff hspelled hlevels.le).mpr
    ⟨layer.tagged_iterate 126 ⟨.construct, rfl⟩, hrule⟩

end JsonShape
