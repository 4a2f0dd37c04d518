import JsonShape.Proofs.Projection.JsonSchema
import JsonShape.Proofs.Validation.Inward
import JsonShape.Proofs.Validation.Pruning
import Mathlib.Algebra.Ring.Parity

/-!
# `null` under the JSON Schema of a schema

Every layer of `nullable` turns into a `oneOf` with `null` as its second branch, and a document is valid
under a `oneOf` if it is valid under exactly one branch.  Each further layer therefore turns the verdict on
`null` around, while it changes nothing for any other document.

* `Schema.nullables` counts the layers of `nullable` around the base rule.
* `Within rule document inner value` says that `value` stands in `document` at some place whose rule is
  `inner`.
* A document that conforms is valid exactly when each `null` in it stands under an odd number of layers of
  `nullable` (`validates_iff_nulls_odd`), and so is the output of a check.  The least output that is not
  valid is a `null` under two layers.
-/

namespace JsonShape

open Schema Json

namespace Schema

/-- The number of layers of `nullable` around the base rule. -/
def nullables : Schema → Nat
  | optional inner => nullables inner
  | nullable inner => nullables inner + 1
  | _ => 0

theorem inward_null (rule : Schema) : rule.inward (some .null) = [] := by
  induction rule with
  | primitive rule hp => cases rule <;> first | rfl | cases hp
  | construct fields _ => rfl
  | array item _ => rfl
  | layer inner rule hl ih => cases hl <;> rw [inward, ih]

theorem inward_of_primitive {rule : Schema} (h : rule.isPrimitive) (input : Option Json) :
    rule.inward input = [] := by
  cases rule <;> first | rfl | cases h

end Schema

theorem LayerOver.inward {inner rule : Schema} (h : LayerOver inner rule) (input : Option Json) :
    rule.inward input = inner.inward input := by
  cases h <;> rw [Schema.inward]

/-- At some place of the first document, under the first rule, the second document stands under the second
rule. -/
inductive Within : Schema → Json → Schema → Json → Prop
  | here (rule : Schema) (document : Json) : Within rule document rule document
  | inward {rule inner : Schema} {document value final : Json} {place : Inward}
      (hp : place ∈ rule.inward (some document)) (hv : place.input = some value)
      (h : Within place.rule value inner final) : Within rule document inner final

/-! ## One layer -/

theorem validates_optional (inner : Schema) (document : Json) :
    validates (optional inner).jsonSchema document = validates inner.jsonSchema document := rfl

theorem validates_nullable_iff (inner : Schema) (document : Json) :
    validates (nullable inner).jsonSchema document = true ↔
      (validates inner.jsonSchema document = true ↔ document ≠ .null) := by
  rw [jsonSchema, validates_object]
  exact keywordsHold_nullable_iff

theorem validates_of_primitive {rule : Schema} (h : rule.isPrimitive) (document : Json) :
    validates rule.jsonSchema document = true ↔ document.kind = rule.expected := by
  have hk : rule.keywordsOf = [("type", .string rule.expected.name)] := by
    cases rule <;> first | rfl | cases h
  rw [jsonSchema, validates_object, hk, keywordsHold_type]

/-- The verdict on `null` goes back and forth with the layers. -/
theorem validates_null_iff (rule : Schema) :
    validates rule.jsonSchema .null = true ↔ Odd rule.nullables := by
  induction rule with
  | primitive rule hp =>
    have hn : rule.nullables = 0 := by cases rule <;> first | rfl | cases hp
    have hv : ¬ validates rule.jsonSchema .null = true := by
      rw [validates_of_primitive hp]
      cases rule <;> first | decide | cases hp
    simp [hn, hv]
  | construct fields _ =>
    rw [jsonSchema, validates_object, keywordsHold_construct_iff]
    simp [nullables]
  | array item _ =>
    rw [jsonSchema, validates_object, keywordsHold_array_iff]
    simp [nullables]
  | layer inner rule hl ih =>
    cases hl with
    | optional => rw [validates_optional, ih, nullables]
    -- exactly one branch holds: the one for `null`, unless the rule inside takes it as well
    | nullable =>
      rw [validates_nullable_iff, ih, nullables, Nat.odd_add_one]
      simp

/-! ## One step further in -/

/-- What conforms and is not `null` is valid if what stands one step further in is. -/
theorem validates_iff_inward {rule : Schema} {document : Json} (hc : Conforms rule (some document))
    (hn : document ≠ .null) :
    validates rule.jsonSchema document = true ↔
      ∀ place ∈ rule.inward (some document), ∀ value, place.input = some value →
        validates place.rule.jsonSchema value = true := by
  induction rule with
  | primitive rule hp =>
    have hkind : document.kind = rule.expected := (conforms_primitive_iff hp).mp hc
    rw [inward_of_primitive hp, validates_of_primitive hp]
    simp [hkind]
  -- a field that is missing need not be valid, but may have to be there: that it does, conformity says
  | construct fields _ =>
    obtain ⟨members, he, hfields⟩ := conforms_construct_iff.mp hc
    obtain rfl := Option.some.inj he
    rw [jsonSchema, validates_object, keywordsHold_construct_iff, inward]
    constructor
    · rintro ⟨others, ho, hvalid⟩ place hp value hv
      obtain rfl := Json.object.inj ho
      obtain ⟨field, hf, rfl⟩ := List.mem_map.mp hp
      exact (hvalid field hf).1 value hv
    · intro hvalid
      refine ⟨members, rfl, fun field hf => ⟨fun value hv => ?_, fun hnone => ?_⟩⟩
      · exact hvalid _ (List.mem_map_of_mem hf) value hv
      · have := hfields field hf
        rw [hnone] at this
        exact conforms_none_iff.mp this
  | array item _ =>
    obtain ⟨items, he, hitems⟩ := conforms_array_iff.mp hc
    obtain rfl := Option.some.inj he
    have hinward : (∀ place ∈ (array item).inward (some (.array items)), ∀ value,
        place.input = some value → validates place.rule.jsonSchema value = true) ↔
          ∀ value ∈ items, validates item.jsonSchema value = true := by
      have hentries : (∀ entry ∈ items.zipIdx, validates item.jsonSchema entry.1 = true) ↔
          ∀ value ∈ items, validates item.jsonSchema value = true :=
        forall_mem_zipIdx (p := fun value => validates item.jsonSchema value = true)
      rw [inward, List.forall_mem_map, ← hentries]
      simp
    rw [hinward, jsonSchema, validates_object, keywordsHold_array_iff]
    simp
  -- a layer leaves the place where it is, so the places further in are those of the rule inside
  | layer inner rule hl ih =>
    have hvalid : validates rule.jsonSchema document = true ↔ validates inner.jsonSchema document = true := by
      cases hl with
      | optional => rw [validates_optional]
      | nullable => simp [validates_nullable_iff, hn]
    rw [hvalid, hl.inward]
    exact ih ((hl.conforms_iff_of_ne_null hn).mp hc)

theorem conforms_of_mem_inward {rule : Schema} {document : Json} (hc : Conforms rule (some document))
    {place : Inward} (hp : place ∈ rule.inward (some document)) : Conforms place.rule place.input := by
  induction rule with
  | primitive rule hprim =>
    rw [inward_of_primitive hprim] at hp
    cases hp
  | construct fields _ =>
    obtain ⟨members, he, hfields⟩ := conforms_construct_iff.mp hc
    obtain rfl := Option.some.inj he
    obtain ⟨field, hf, rfl⟩ := List.mem_map.mp hp
    exact hfields field hf
  | array item _ =>
    obtain ⟨items, he, hitems⟩ := conforms_array_iff.mp hc
    obtain rfl := Option.some.inj he
    obtain ⟨entry, hentry, rfl⟩ := List.mem_map.mp hp
    exact forall_mem_zipIdx.mpr hitems entry hentry
  | layer inner rule hl ih =>
    rw [hl.inward] at hp
    -- there is nothing further in than `null`
    by_cases hn : document = .null
    · subst hn
      rw [inward_null] at hp
      cases hp
    · exact ih ((hl.conforms_iff_of_ne_null hn).mp hc) hp

/-! ## Whole documents -/

theorem validates_iff_nulls_odd {rule : Schema} {input : Option Json} :
    ∀ {document : Json}, input = some document → Conforms rule (some document) →
      (validates rule.jsonSchema document = true ↔
        ∀ inner, Within rule document inner .null → Odd inner.nullables) := by
  -- the induction goes along the places of the document, one step further in at a time
  induction rule, input using Schema.induct_inward with
  | step rule input ih =>
    rintro document rfl hc
    by_cases hn : document = .null
    · subst hn
      rw [validates_null_iff]
      constructor
      · intro hodd inner hw
        cases hw with
        | here => exact hodd
        | inward hp =>
          rw [inward_null] at hp
          cases hp
      · intro hall
        exact hall rule (.here rule .null)
    · rw [validates_iff_inward hc hn]
      constructor
      · intro hvalid inner hw
        cases hw with
        | here => exact absurd rfl hn
        | inward hp hv h =>
          have hplace := conforms_of_mem_inward hc hp
          rw [hv] at hplace
          exact (ih _ hp hv hplace).mp (hvalid _ hp _ hv) inner h
      · -- each `null` below the place is one below this one
        intro hall place hp value hv
        have hplace := conforms_of_mem_inward hc hp
        rw [hv] at hplace
        exact (ih place hp hv hplace).mpr fun inner h => hall inner (.inward hp hv h)

/-- **Which outputs are valid**: under a cap that covers the schema, the output of a check is valid under
the JSON Schema exactly when each `null` in it stands under an odd number of layers of `nullable`. -/
theorem output_valid_iff {rule : Schema} (hd : rule.Distinct) {cap : Nat} (hcap : rule.depth ≤ cap)
    {document out : Json} (h : rule.parseValue document cap = .ok out) :
    validates rule.jsonSchema out = true ↔
      ∀ inner, Within rule out inner .null → Odd inner.nullables := by
  obtain ⟨hc, rfl⟩ := (parseValue_eq_ok_iff_conforms hcap).mp h
  exact validates_iff_nulls_odd rfl (conforms_prune hd hc)

theorem output_valid_iff_sample :
    (array (nullable (optional (nullable string)))).Distinct ∧
    (array (nullable (optional (nullable string)))).depth ≤ 5 ∧
    (array (nullable (optional (nullable string)))).parseValue (.array [.string "a", .null]) 5 =
      .ok (.array [.string "a", .null]) ∧
    validates (array (nullable (optional (nullable string)))).jsonSchema
      (.array [.string "a", .null]) = false := by
  have hd : (array (nullable (optional (nullable string)))).Distinct := trivial
  have hcap : (array (nullable (optional (nullable string)))).depth ≤ 5 := by decide
  have hp : (array (nullable (optional (nullable string)))).parseValue
      (.array [.string "a", .null]) 5 = .ok (.array [.string "a", .null]) := rfl
  refine ⟨hd, hcap, hp, ?_⟩
  rw [← Bool.not_eq_true, output_valid_iff hd hcap hp]
  intro hall
  have hplace : (⟨.index 1, nullable (optional (nullable string)), some .null⟩ : Inward) ∈
      (array (nullable (optional (nullable string)))).inward (some (.array [.string "a", .null])) := by
    simp [inward]
  exact absurd (hall _ (.inward hplace rfl (.here _ _))) (by decide)

/-- Where two layers of `nullable` stand around each other `null` is accepted and comes out as it is, but
it is valid under both branches of `oneOf` and so not valid. -/
theorem null_under_two_nullables :
    (nullable (nullable string)).Distinct ∧
    (nullable (nullable string)).parseValue .null (nullable (nullable string)).depth = .ok .null ∧
    validates (nullable (nullable string)).jsonSchema .null = false := by
  refine ⟨trivial, rfl, ?_⟩
  rw [← Bool.not_eq_true, validates_null_iff]
  decide

end JsonShape
