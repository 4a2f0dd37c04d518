import JsonShape.Proofs.Json.Layout
import JsonShape.Proofs.Schema.Described

/-!
# Descriptors that are written and read

The descriptor of a schema describes that schema (`describes_ofRule`, `rule_ofRule`), and its text reads back
as the descriptor as long as it has no more levels than a document may have (`outer_text`).

`Schema.describedLevels` counts the levels of the descriptor from the schema: a record takes two, one for
itself and one for its fields, and every other rule one.
-/

namespace JsonShape

open Json

namespace Descriptor

/-! ## The document of a schema -/

theorem describesFields_ofFields {fields : List (String × Schema)}
    (h : ∀ field ∈ fields, Describes field.2 (ofRule field.2)) : DescribesFields fields (ofFields fields) := by
  induction fields with
  | nil => exact .nil
  | cons field rest ih =>
    obtain ⟨hfield, hrest⟩ := List.forall_mem_cons.mp h
    exact .cons hfield (ih hrest)

theorem describes_ofRule (schema : Schema) : Describes schema (ofRule schema) := by
  induction schema with
  | primitive schema hp =>
    cases schema with
    | string | number | boolean => exact .primitive rfl rfl
    | construct | optional | nullable | array => cases hp
  | construct fields ih => exact .record rfl rfl (describesFields_ofFields ih)
  | array item ih => exact .around rfl rfl rfl ih
  | layer inner schema hl ih =>
    cases hl with
    | optional => exact .around rfl rfl rfl ih
    | nullable => exact .around rfl rfl rfl ih

/-- **The descriptor of a schema describes it.** -/
theorem rule_ofRule {schema : Schema} (h : schema.Distinct) : rule (ofRule schema) = .ok schema :=
  (rule_described (describes_ofRule schema)).1 h

/-! ## The text of a descriptor -/

/-- **A descriptor reads back**: a document with its tag in front is taken as the text of a descriptor if it
has no more levels than a document may have, and fails for its levels if it has more. -/
theorem outer_text (layout : Layout) (form : Form) {others : List (String × Json)}
    (hnames : "type" ∉ Members.names others)
    (hnumbers : ∀ member ∈ others, ∀ n ∈ member.2.numbers, n.Legible) :
    Reads outer (layout.text 0 (.object (("type", .string form.tag) :: others)))
      (.object (("type", .string form.tag) :: others))
      ((Json.object (("type", .string form.tag) :: others)).nesting ≤ nestingLimit) := by
  intro after _
  have htagged : Tagged (.object (("type", .string form.tag) :: others)) :=
    ⟨form, by rw [tags, Members.every_cons_self, Members.every_eq_nil_iff.mpr hnames]⟩
  have hlegible : ∀ n ∈ (Json.object (("type", .string form.tag) :: others)).numbers, n.Legible := by
    intro n hn
    obtain ⟨member, hm, hn⟩ := mem_numbers_object.mp hn
    rcases List.mem_cons.mp hm with rfl | hm
    · cases hn
    · exact hnumbers member hm n hn
  exact outer_spelled htagged (layout.spells_text 0 hlegible) after

/-! ## Levels and numbers -/

/-- There is no number in a descriptor. -/
theorem numbers_ofRule (schema : Schema) : (ofRule schema).numbers = [] := by
  induction schema with
  | primitive schema hp => cases schema <;> first | rfl | cases hp
  | construct fields ih =>
    have hfields : ∀ fields : List (String × Schema),
        (∀ field ∈ fields, (ofRule field.2).numbers = []) → numbersOfMembers (ofFields fields) = [] := by
      intro fields h
      induction fields with
      | nil => rfl
      | cons field rest ihr =>
        obtain ⟨hfield, hrest⟩ := List.forall_mem_cons.mp h
        rw [ofFields, numbersOfMembers, hfield, ihr hrest]
        rfl
    simp [ofRule, numbers, numbersOfMembers, hfields fields ih]
  | array item ih => simp [ofRule, numbers, numbersOfMembers, ih]
  | layer inner schema hl ih => cases hl <;> simp [ofRule, numbers, numbersOfMembers, ih]

/-- A descriptor has its tag in front. -/
theorem ofRule_tagged (schema : Schema) : ∃ others, "type" ∉ Members.names others ∧
    ofRule schema = .object (("type", .string schema.form.tag) :: others) := by
  cases schema with
  | construct fields => exact ⟨[("fields", .object (ofFields fields))], by simp [Members.names], rfl⟩
  | optional inner => exact ⟨[("of", ofRule inner)], by simp [Members.names], rfl⟩
  | nullable inner => exact ⟨[("of", ofRule inner)], by simp [Members.names], rfl⟩
  | array item => exact ⟨[("of", ofRule item)], by simp [Members.names], rfl⟩
  | string | number | boolean => exact ⟨[], by simp [Members.names], rfl⟩

end Descriptor

namespace Schema

mutual

/-- The levels of objects in the descriptor of a schema: a record counts twice. -/
def describedLevels : Schema → Nat
  | construct fields => 2 + describedLevelsOfFields fields
  | optional inner => 1 + describedLevels inner
  | nullable inner => 1 + describedLevels inner
  | array item => 1 + describedLevels item
  | _ => 1

def describedLevelsOfFields : List (String × Schema) → Nat
  | [] => 0
  | (_, field) :: rest => max (describedLevels field) (describedLevelsOfFields rest)

end

theorem nesting_toDescriptor (schema : Schema) : schema.toDescriptor.nesting = schema.describedLevels := by
  rw [toDescriptor]
  induction schema with
  | primitive schema hp => cases schema <;> first | rfl | cases hp
  | construct fields ih =>
    -- a record has two levels around its fields: its own, and that of the object with the fields
    have hfields : ∀ fields : List (String × Schema),
        (∀ field ∈ fields, (Descriptor.ofRule field.2).nesting = field.2.describedLevels) →
          nestingMembers (Descriptor.ofFields fields) = describedLevelsOfFields fields := by
      intro fields h
      induction fields with
      | nil => rfl
      | cons field rest ihr =>
        obtain ⟨hfield, hrest⟩ := List.forall_mem_cons.mp h
        rw [Descriptor.ofFields, nestingMembers, hfield, ihr hrest, describedLevelsOfFields]
    simp only [Descriptor.ofRule, nesting, nestingMembers, hfields fields ih, describedLevels]
    omega
  | array item ih =>
    simp only [Descriptor.ofRule, nesting, nestingMembers, ih, describedLevels]
    omega
  | layer inner schema hl ih =>
    cases hl
    all_goals
      simp only [Descriptor.ofRule, nesting, nestingMembers, ih, describedLevels]
      omega

end Schema

/-- The text of a schema's descriptor is read as the schema if it has no more levels than a document may have,
and fails for its levels if it has more. -/
theorem Schema.descriptorText_decides {schema : Schema} (h : schema.Distinct) :
    Decides (ofDescriptor schema.descriptorText) schema (schema.describedLevels ≤ nestingLimit)
      fun bad => bad.fault = .tooDeep := by
  obtain ⟨others, hnames, hdocument⟩ := Descriptor.ofRule_tagged schema
  -- a descriptor has no numbers, so all that it has reads back
  have hnumbers : ∀ member ∈ others, ∀ n ∈ member.2.numbers, n.Legible := by
    intro member hm n hn
    have hmem : n ∈ (Descriptor.ofRule schema).numbers := by
      rw [hdocument]
      exact mem_numbers_object.mpr ⟨member, List.mem_cons_of_mem _ hm, hn⟩
    rw [Descriptor.numbers_ofRule] at hmem
    cases hmem
  have hlevels : (Descriptor.ofRule schema).nesting = schema.describedLevels := schema.nesting_toDescriptor
  have htext : schema.descriptorText.toList = (prettyAt 0 (Descriptor.ofRule schema)).toList := rfl
  have hreads := Descriptor.outer_text Layout.lines schema.form hnames hnumbers [] (by simp [AfterValue])
  rw [← hdocument, ← Layout.text_lines, List.append_nil, hlevels] at hreads
  obtain ⟨hok, herror⟩ := hreads
  refine ⟨fun hf => ?_, fun hn => ?_⟩
  · simp only [Schema.ofDescriptor, htext, hok hf, Descriptor.rule_ofRule h]
  · obtain ⟨failure, hfailure, hfault⟩ := herror hn
    rw [Schema.ofDescriptor, htext, hfailure]
    exact ⟨_, rfl, hfault⟩

/-- **A schema comes back from its descriptor's text**, with its fields in the same order, as long as the
text has no more levels of objects than a document may have.  With more levels, they are what is found at
fault. -/
theorem descriptor_round_trip {schema : Schema} (h : schema.Distinct) :
    schema.toDescriptor.nesting = schema.describedLevels ∧
    (schema.describedLevels ≤ nestingLimit →
      Schema.ofDescriptor schema.descriptorText = .ok schema) ∧
    (nestingLimit < schema.describedLevels → ∃ bad,
      Schema.ofDescriptor schema.descriptorText = .error bad ∧ bad.fault = .tooDeep) := by
  obtain ⟨hok, herror⟩ := Schema.descriptorText_decides h
  exact ⟨schema.nesting_toDescriptor, hok, fun hn => herror (Nat.not_le.mpr hn)⟩

/-- Names that need escapes, and a record inside an array. -/
theorem descriptor_round_trip_sample :
    let schema : Schema := .construct [("\"\n", .optional (.nullable .string)),
      ("é", .array (.construct [("", .number), ("\"\n", .boolean)]))]
    schema.Distinct ∧ schema.toDescriptor.nesting = 6 ∧
      Schema.ofDescriptor schema.descriptorText = .ok schema := by
  intro schema
  have hdistinct : schema.Distinct := by
    simp [schema, Schema.Distinct, Schema.DistinctFields, Members.names]
  have hlevels : schema.describedLevels = 6 := rfl
  obtain ⟨hnesting, hread, -⟩ := descriptor_round_trip hdistinct
  exact ⟨hdistinct, hnesting.trans hlevels, hread (by rw [hlevels]; decide)⟩

end JsonShape
