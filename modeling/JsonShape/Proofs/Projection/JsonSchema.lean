import JsonShape.Projection.JsonSchema
import JsonShape.Proofs.Projection.Validity
import JsonShape.Proofs.Validation.Parse

/-!
# The JSON Schema of a schema

The documents that are valid under the JSON Schema of a rule are those that conform to it, as long as no
layer of `nullable` stands above another with nothing but layers in between (`Schema.NullableOnce`): of
the two branches of `oneOf` exactly one may hold.
-/

namespace JsonShape

namespace Schema

mutual

/-- No layer of `nullable` stands above another one with nothing but layers in between. -/
def NullableOnce : Schema → Prop
  | nullable inner => inner.admitsNull = false ∧ NullableOnce inner
  | optional inner => NullableOnce inner
  | array item => NullableOnce item
  | construct fields => NullableOnceFields fields
  | _ => True

def NullableOnceFields : List (String × Schema) → Prop
  | [] => True
  | (_, rule) :: rest => NullableOnce rule ∧ NullableOnceFields rest

end

theorem nullableOnceFields_iff {fields : List (String × Schema)} :
    NullableOnceFields fields ↔ ∀ field ∈ fields, NullableOnce field.2 := by
  induction fields with
  | nil => simp [NullableOnceFields]
  | cons first rest ih => simp [NullableOnceFields, ih]

theorem mem_requiredNames_iff {name : String} {fields : List (String × Schema)} :
    name ∈ requiredNames fields ↔ ∃ field ∈ fields, field.1 = name ∧ field.2.admitsMissing = false := by
  induction fields with
  | nil => simp [requiredNames]
  | cons first rest ih =>
    rw [requiredNames]
    cases hm : first.2.admitsMissing <;> simp [ih, hm, @eq_comm _ name]

end Schema

open Schema Json

/-! ## Keywords of a record -/

theorem keywordsHold_requiredKeyword (declared names : List String) (members : List (String × Json)) :
    keywordsHold declared (requiredKeyword names) (.object members) = true ↔
      ∀ name ∈ names, (Members.get? name members).isSome = true := by
  cases names with
  | nil => simp [requiredKeyword, keywordsHold]
  | cons name rest => simp [requiredKeyword, keywordsHold, hasRequired]

theorem propertiesHold_iff {fields : List (String × Schema)} {members : List (String × Json)} :
    propertiesHold (properties fields) members = true ↔
      ∀ field ∈ fields, ∀ value, Members.get? field.1 members = some value →
        validates field.2.jsonSchema value = true := by
  induction fields with
  | nil => simp [properties, propertiesHold]
  | cons field rest ih =>
    rw [properties, propertiesHold, Bool.and_eq_true, ih, List.forall_mem_cons]
    refine and_congr_left fun _ => ?_
    cases Members.get? field.1 members <;> simp [jsonSchema]

/-- The required names are all there if whatever is not there may be missing. -/
theorem requiredNames_present_iff {fields : List (String × Schema)} {members : List (String × Json)} :
    (∀ name ∈ requiredNames fields, (Members.get? name members).isSome = true) ↔
      ∀ field ∈ fields, Members.get? field.1 members = none → field.2.admitsMissing = true := by
  constructor
  · intro h field hf hn
    cases hm : field.2.admitsMissing with
    | true => rfl
    | false =>
      have := h field.1 (mem_requiredNames_iff.mpr ⟨field, hf, rfl, hm⟩)
      rw [hn] at this
      cases this
  · intro h name hname
    obtain ⟨field, hf, rfl, hm⟩ := mem_requiredNames_iff.mp hname
    cases hv : Members.get? field.1 members with
    | some value => rfl
    | none =>
      have := h field hf hv
      rw [hm] at this
      cases this

/-- The keywords of a record ask for an object that has a valid value under each declared name, or has no
value there if it may be missing. -/
theorem keywordsHold_construct_iff {declared : List String} {fields : List (String × Schema)}
    {document : Json} :
    keywordsHold declared (keywordsOf (.construct fields)) document = true ↔
      ∃ members, document = .object members ∧ ∀ field ∈ fields,
        (∀ value, Members.get? field.1 members = some value →
          validates field.2.jsonSchema value = true) ∧
        (Members.get? field.1 members = none → field.2.admitsMissing = true) := by
  have hkeys : keywordsOf (.construct fields) = [("type", .string Kind.object.name)] ++
      [("properties", .object (properties fields)), ("additionalProperties", .bool true)] ++
      requiredKeyword (requiredNames fields) := rfl
  have hobject : document.kind = .object ↔ ∃ members, document = .object members := by
    cases document <;> simp [Json.kind]
  -- the keyword on other names allows them, so it says nothing
  rw [hkeys, keywordsHold_append, keywordsHold_append, Bool.and_eq_true, Bool.and_eq_true,
    keywordsHold_type, keywordsHold_properties, hobject]
  constructor
  · rintro ⟨⟨⟨members, rfl⟩, hp⟩, hr⟩
    have hp := propertiesHold_iff.mp hp
    have hr := requiredNames_present_iff.mp ((keywordsHold_requiredKeyword _ _ _).mp hr)
    exact ⟨members, rfl, fun field hf => ⟨hp field hf, hr field hf⟩⟩
  · rintro ⟨members, rfl, h⟩
    refine ⟨⟨⟨members, rfl⟩, propertiesHold_iff.mpr fun field hf => (h field hf).1⟩, ?_⟩
    rw [keywordsHold_requiredKeyword, requiredNames_present_iff]
    exact fun field hf => (h field hf).2

theorem keywordsHold_array_iff {declared : List String} {item : Schema} {document : Json} :
    keywordsHold declared (keywordsOf (.array item)) document = true ↔
      ∃ items, document = .array items ∧ ∀ value ∈ items, validates item.jsonSchema value = true := by
  have hkeys : keywordsOf (.array item) =
      [("type", .string Kind.array.name)] ++ [("items", item.jsonSchema)] := rfl
  rw [hkeys, keywordsHold_append, Bool.and_eq_true, keywordsHold_type, keywordsHold_items]
  cases document <;> simp [Json.kind, Json.items]

theorem keywordsHold_nullable_iff {declared : List String} {inner : Schema} {document : Json} :
    keywordsHold declared (keywordsOf (.nullable inner)) document = true ↔
      (validates inner.jsonSchema document = true ↔ document ≠ .null) := by
  have hkeys : keywordsOf (.nullable inner) =
      [("oneOf", .array [inner.jsonSchema, .object [("type", .string Kind.null.name)]])] := rfl
  have hnull : validates (.object [("type", .string Kind.null.name)]) document = true ↔
      document = .null := by
    rw [validates_object, keywordsHold_type, kind_eq_null_iff]
  rw [hkeys, keywordsHold_oneOf]
  simp only [ne_eq, ← hnull]
  cases validates inner.jsonSchema document <;>
    cases validates (.object [("type", .string Kind.null.name)]) document <;> simp

/-! ## Validity and conformity -/

/-- The keywords of a rule hold, whatever names they are taken to declare, of what conforms to it. -/
theorem keywordsHold_iff_conforms {rule : Schema} (h : rule.NullableOnce) (declared : List String)
    (document : Json) :
    keywordsHold declared rule.keywordsOf document = true ↔ Conforms rule (some document) := by
  -- the names that are taken to be declared change on the way in, where a record is within another
  induction rule generalizing declared document with
  | primitive rule hp =>
    have hk : rule.keywordsOf = [("type", .string rule.expected.name)] := by
      cases rule <;> first | rfl | cases hp
    rw [hk, keywordsHold_type, conforms_primitive_iff hp, kindOf]
  | construct fields ih =>
    have hf : ∀ field ∈ fields, ∀ input, Conforms field.2 input ↔
        (∀ value, input = some value → validates field.2.jsonSchema value = true) ∧
          (input = none → field.2.admitsMissing = true) := by
      intro field hm input
      have hi := ih field hm (nullableOnceFields_iff.mp h field hm)
      cases input with
      | none => simp [conforms_none_iff]
      | some value => simp [jsonSchema, validates_object, hi]
    rw [keywordsHold_construct_iff, conforms_construct_iff]
    constructor
    · rintro ⟨members, rfl, hv⟩
      exact ⟨members, rfl, fun field hm => (hf field hm _).mpr (hv field hm)⟩
    · rintro ⟨members, he, hc⟩
      exact ⟨members, Option.some.inj he, fun field hm => (hf field hm _).mp (hc field hm)⟩
  | array item ih =>
    have hi : ∀ value, validates item.jsonSchema value = true ↔ Conforms item (some value) := by
      intro value
      rw [jsonSchema, validates_object]
      exact ih h _ value
    rw [keywordsHold_array_iff, conforms_array_iff]
    simp only [hi, Option.some.injEq]
  | layer inner rule hl ih =>
    cases hl with
    | optional =>
      rw [keywordsOf, conforms_layer_iff .optional rfl]
      exact ih h declared document
    | nullable =>
      -- the layer adds `null`, which the rule inside does not admit; so exactly one branch holds
      obtain ⟨hn, h⟩ := h
      rw [keywordsHold_nullable_iff, jsonSchema, validates_object, ih h]
      by_cases hd : document = .null
      · subst hd
        rw [conforms_null_iff, hn]
        exact iff_of_true (by simp) (.null inner)
      · rw [conforms_layer_iff .nullable (letsThrough_of_ne_null _ hd)]
        simp [hd]

theorem validates_jsonSchema_iff {rule : Schema} (h : rule.NullableOnce) (document : Json) :
    validates rule.jsonSchema document = true ↔ Conforms rule (some document) := by
  rw [jsonSchema, validates_object]
  exact keywordsHold_iff_conforms h _ document

/-- The header of a document says nothing about what is valid. -/
theorem validates_jsonSchemaDocument_iff {rule : Schema} (h : rule.NullableOnce)
    (title : Option String) (document : Json) :
    validates (rule.jsonSchemaDocument title) document = true ↔ Conforms rule (some document) := by
  rw [jsonSchemaDocument, validates_object, keywordsHold_append, Bool.and_eq_true,
    keywordsHold_iff_conforms h]
  cases title <;> simp [keywordsHold]

/-- **The JSON Schema agrees with the check**: under a cap that covers the schema a document is valid
under the JSON Schema, be it by itself or with the header of a document, exactly when it is accepted. -/
theorem jsonSchema_agrees_with_parse {rule : Schema} (h : rule.NullableOnce) {cap : Nat}
    (hc : rule.depth ≤ cap) (document : Json) :
    (validates rule.jsonSchema document = true ↔ ∃ out, rule.parseValue document cap = .ok out) ∧
    ∀ title, validates (rule.jsonSchemaDocument title) document = true ↔
      ∃ out, rule.parseValue document cap = .ok out := by
  have hp : (∃ out, rule.parseValue document cap = .ok out) ↔ Conforms rule (some document) := by
    simp only [parseValue_eq_ok_iff_conforms hc, exists_and_left, exists_eq, and_true]
  rw [hp]
  exact ⟨validates_jsonSchema_iff h document, fun title => validates_jsonSchemaDocument_iff h title document⟩

theorem jsonSchema_agrees_with_parse_sample :
    (construct [("id", .number), ("nick", .nullable (.optional .string)),
      ("tags", .optional (.array (.nullable .boolean)))]).NullableOnce ∧
    (construct [("id", .number), ("nick", .nullable (.optional .string)),
      ("tags", .optional (.array (.nullable .boolean)))]).depth ≤ 5 ∧
    validates (jsonSchema (construct [("id", .number), ("nick", .nullable (.optional .string)),
      ("tags", .optional (.array (.nullable .boolean)))]))
      (.object [("nick", .null), ("age", .bool true), ("id", .number (.integer 7))]) = true := by
  have h : (construct [("id", .number), ("nick", .nullable (.optional .string)),
      ("tags", .optional (.array (.nullable .boolean)))]).NullableOnce := by
    simp [NullableOnce, NullableOnceFields, admitsNull]
  refine ⟨h, by decide, (jsonSchema_agrees_with_parse h (show _ ≤ 5 by decide) _).1.mpr ?_⟩
  exact ⟨.object [("id", .number (.integer 7)), ("nick", .null)], rfl⟩

end JsonShape
