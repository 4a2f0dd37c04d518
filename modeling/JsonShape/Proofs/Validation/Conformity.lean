import JsonShape.Proofs.Validation.Scan

/-!
# Conformity and pruning

`Conforms rule input` says, with no walk and no cap, that a rule accepts what is supplied.
`Schema.prune` reduces a document to what a rule declares.

A cap that is no lower than the schema is deep hides nothing: the scan then finds no mismatch exactly
when the input conforms (`scan_eq_nil_iff`).
-/

namespace JsonShape

/-- A primitive rule accepts its kind; a record accepts an object each of whose declared fields conforms,
missing or not; an array accepts an array of conforming elements.  A layer accepts what the rule inside
accepts, and the missing input or `null` besides. -/
inductive Conforms : Schema → Option Json → Prop
  | primitive {rule : Schema} {input : Option Json} (hp : rule.isPrimitive)
      (hk : kindOf input = rule.expected) : Conforms rule input
  | construct {fields : List (String × Schema)} {members : List (String × Json)}
      (h : ∀ field ∈ fields, Conforms field.2 (Members.get? field.1 members)) :
      Conforms (.construct fields) (some (.object members))
  | array {item : Schema} {items : List Json} (h : ∀ value ∈ items, Conforms item (some value)) :
      Conforms (.array item) (some (.array items))
  | missing (inner : Schema) : Conforms (.optional inner) none
  | optional {inner : Schema} {input : Option Json} (h : Conforms inner input) :
      Conforms (.optional inner) input
  | null (inner : Schema) : Conforms (.nullable inner) (some .null)
  | nullable {inner : Schema} {input : Option Json} (h : Conforms inner input) :
      Conforms (.nullable inner) input

theorem Json.kind_eq_null_iff {document : Json} : document.kind = .null ↔ document = .null := by
  cases document <;> simp [kind]

namespace Schema

mutual

/-- The document reduced to what the rule declares. -/
def prune : Schema → Json → Json
  | optional inner, document => prune inner document
  | nullable inner, document => prune inner document
  | construct fields, .object members => .object (pruneFields fields members)
  | array item, .array items => .array (items.map (prune item))
  | _, document => document

/-- The declared fields that are among the members, in the order of their declaration. -/
def pruneFields : List (String × Schema) → List (String × Json) → List (String × Json)
  | [], _ => []
  | (name, rule) :: rest, members =>
    match Members.get? name members with
    | some value => (name, prune rule value) :: pruneFields rest members
    | none => pruneFields rest members

end

theorem prune_of_primitive {rule : Schema} (h : rule.isPrimitive) (document : Json) :
    rule.prune document = document := by
  cases rule <;> first | rfl | cases h

/-- Pruning keeps the kind, so that `null` comes out exactly where it was. -/
theorem kind_prune (rule : Schema) (document : Json) : (rule.prune document).kind = document.kind := by
  induction rule with
  | primitive rule hp => rw [prune_of_primitive hp]
  | construct fields _ => cases document <;> simp [prune, Json.kind]
  | array item _ => cases document <;> simp [prune, Json.kind]
  | layer inner rule hl ih => cases hl <;> rw [prune, ih]

theorem prune_eq_null_iff {rule : Schema} {document : Json} :
    rule.prune document = .null ↔ document = .null := by
  rw [← Json.kind_eq_null_iff, kind_prune, Json.kind_eq_null_iff]

theorem pruneFields_eq_filterMap (fields : List (String × Schema)) (members : List (String × Json)) :
    pruneFields fields members = fields.filterMap fun field =>
      ((Members.get? field.1 members).map field.2.prune).map (field.1, ·) := by
  induction fields with
  | nil => rfl
  | cons field rest ih => cases hv : Members.get? field.1 members <;> simp [pruneFields, hv, ih]

/-- The names of a pruned record are the declared ones that were supplied. -/
theorem names_pruneFields (fields : List (String × Schema)) (members : List (String × Json)) :
    Members.names (pruneFields fields members) =
      (Members.names fields).filter fun name => (Members.get? name members).isSome := by
  induction fields with
  | nil => simp [pruneFields, Members.names]
  | cons field rest ih =>
    simp only [Members.names] at ih
    cases hv : Members.get? field.1 members <;> simp [pruneFields, Members.names, hv, ih]

end Schema

theorem LayerOver.prune {inner rule : Schema} (h : LayerOver inner rule) (document : Json) :
    rule.prune document = inner.prune document := by
  cases h <;> rw [Schema.prune]

/-! ## Conformity from the outside in -/

theorem LayerOver.conforms {inner rule : Schema} (h : LayerOver inner rule) {input : Option Json}
    (hc : Conforms inner input) : Conforms rule input := by
  cases h with
  | optional => exact .optional hc
  | nullable => exact .nullable hc

theorem conforms_of_letsThrough {rule : Schema} {input : Option Json}
    (h : rule.letsThrough input = true) : Conforms rule input := by
  unfold Schema.letsThrough at h
  split at h
  · exact .missing _
  · exact .null _
  · cases h

theorem conforms_primitive_iff {rule : Schema} (hp : rule.isPrimitive) {input : Option Json} :
    Conforms rule input ↔ kindOf input = rule.expected := by
  refine ⟨fun h => ?_, .primitive hp⟩
  cases h with
  | primitive _ hk => exact hk
  | _ => cases hp

theorem conforms_layer_iff {inner rule : Schema} (hl : LayerOver inner rule) {input : Option Json}
    (hn : rule.letsThrough input = false) : Conforms rule input ↔ Conforms inner input := by
  refine ⟨fun h => ?_, hl.conforms⟩
  cases h with
  | optional h | nullable h => cases hl; exact h
  | missing | null => cases hn
  | primitive hp | construct | array => cases hl <;> cases hp

theorem conforms_construct_iff {fields : List (String × Schema)} {input : Option Json} :
    Conforms (.construct fields) input ↔ ∃ members, input = some (.object members) ∧
      ∀ field ∈ fields, Conforms field.2 (Members.get? field.1 members) := by
  constructor
  · intro h
    cases h with
    | construct h => exact ⟨_, rfl, h⟩
    | primitive hp => cases hp
  · rintro ⟨members, rfl, h⟩
    exact .construct h

theorem conforms_array_iff {item : Schema} {input : Option Json} :
    Conforms (.array item) input ↔ ∃ items, input = some (.array items) ∧
      ∀ value ∈ items, Conforms item (some value) := by
  constructor
  · intro h
    cases h with
    | array h => exact ⟨_, rfl, h⟩
    | primitive hp => cases hp
  · rintro ⟨items, rfl, h⟩
    exact .array h

/-! ## Missing inputs and `null` -/

theorem conforms_none_iff {rule : Schema} : Conforms rule none ↔ rule.admitsMissing = true := by
  induction rule with
  | primitive rule hp =>
    rw [conforms_primitive_iff hp]
    cases rule <;> first | decide | cases hp
  | construct fields _ => simp [conforms_construct_iff, Schema.admitsMissing]
  | array item _ => simp [conforms_array_iff, Schema.admitsMissing]
  | layer inner rule hl ih =>
    cases hl with
    | optional => exact iff_of_true (.missing inner) rfl
    | nullable => rw [conforms_layer_iff .nullable rfl, ih, Schema.admitsMissing]

theorem conforms_null_iff {rule : Schema} : Conforms rule (some .null) ↔ rule.admitsNull = true := by
  induction rule with
  | primitive rule hp =>
    rw [conforms_primitive_iff hp]
    cases rule <;> first | decide | cases hp
  | construct fields _ => simp [conforms_construct_iff, Schema.admitsNull]
  | array item _ => simp [conforms_array_iff, Schema.admitsNull]
  | layer inner rule hl ih =>
    cases hl with
    | optional => rw [conforms_layer_iff .optional rfl, ih, Schema.admitsNull]
    | nullable => exact iff_of_true (.null inner) rfl

/-- What conforms is of the kind that is wanted, unless it is missing or `null`. -/
theorem Conforms.kindOf_eq {rule : Schema} {input : Option Json} (h : Conforms rule input) :
    kindOf input = rule.expected ∨ input = none ∨ input = some .null := by
  induction h with
  | primitive _ hk => exact .inl hk
  | construct | array => exact .inl rfl
  | missing => exact .inr (.inl rfl)
  | null => exact .inr (.inr rfl)
  | optional _ ih | nullable _ ih => exact ih

/-! ## The scan under a cap that hides nothing -/

/-- If the cap covers the schema, there is no mismatch exactly when the input conforms. -/
theorem scan_eq_nil_iff {cap : Nat} (rule : Schema) (input : Option Json) (depth : Nat)
    (h : rule.depth + depth ≤ cap + 1) : scan cap rule input depth = [] ↔ Conforms rule input := by
  -- a rule further in stands one deeper, and its own depth is one less, so the cap covers it as well
  induction rule generalizing input depth with
  | primitive rule hp =>
    have hd := Schema.depth_of_primitive hp
    rw [scan_base_eq_nil_iff (Schema.isBase_of_primitive hp) (by omega), branches_of_primitive hp,
      conforms_primitive_iff hp]
    simp
  | construct fields ih =>
    have hf : ∀ field ∈ fields, ∀ input,
        scan cap field.2 input (depth + 1) = [] ↔ Conforms field.2 input := by
      intro field hm input
      have := Schema.depth_lt_construct hm
      exact ih field hm input (depth + 1) (by omega)
    rw [scan_construct_eq_nil_iff (by have := Schema.depth_pos (.construct fields); omega),
      conforms_construct_iff]
    constructor
    · rintro ⟨members, rfl, h⟩
      exact ⟨members, rfl, fun field hm => (hf field hm _).mp (h field hm)⟩
    · rintro ⟨members, rfl, h⟩
      exact ⟨members, rfl, fun field hm => (hf field hm _).mpr (h field hm)⟩
  | array item ih =>
    have hd : (Schema.array item).depth = 1 + item.depth := rfl
    have hi : ∀ value, scan cap item (some value) (depth + 1) = [] ↔ Conforms item (some value) :=
      fun value => ih (some value) (depth + 1) (by omega)
    rw [scan_array_eq_nil_iff (by omega), conforms_array_iff]
    simp only [hi]
  | layer inner rule hl ih =>
    have hd := hl.depth
    by_cases ht : rule.letsThrough input = true
    · exact iff_of_true (scan_of_letsThrough ht (by omega)) (conforms_of_letsThrough ht)
    · rw [Bool.not_eq_true] at ht
      rw [scan_layer_eq_nil_iff hl ht, conforms_layer_iff hl ht]
      exact ih input (depth + 1) (by omega)

/-! ## The scan under any cap -/

theorem scan_of_lt {cap depth : Nat} (h : cap < depth) (rule : Schema) (input : Option Json) :
    scan cap rule input depth = [⟨.depthExceeded, rule.expected, kindOf input, []⟩] := by
  rw [scan, found, if_pos (by omega)]

theorem le_of_scan_eq_nil {cap depth : Nat} {rule : Schema} {input : Option Json}
    (h : scan cap rule input depth = []) : depth ≤ cap := by
  refine Nat.not_lt.mp fun hlt => ?_
  rw [scan_of_lt hlt] at h
  cases h

/-- What a cap lets through without a mismatch conforms, even if the cap does not cover the schema. -/
theorem conforms_of_scan_eq_nil {cap : Nat} {rule : Schema} {input : Option Json} {depth : Nat}
    (h : scan cap rule input depth = []) : Conforms rule input := by
  induction rule generalizing input depth with
  | primitive rule hp =>
    have hb := Schema.isBase_of_primitive hp
    exact (conforms_primitive_iff hp).mpr ((scan_base_eq_nil_iff hb (le_of_scan_eq_nil h)).mp h).1
  | construct fields ih =>
    obtain ⟨members, rfl, hfields⟩ := (scan_construct_eq_nil_iff (le_of_scan_eq_nil h)).mp h
    exact .construct fun field hf => ih field hf (hfields field hf)
  | array item ih =>
    obtain ⟨items, rfl, hitems⟩ := (scan_array_eq_nil_iff (le_of_scan_eq_nil h)).mp h
    exact .array fun value hv => ih (hitems value hv)
  | layer inner rule hl ih =>
    by_cases ht : rule.letsThrough input = true
    · exact conforms_of_letsThrough ht
    · exact hl.conforms (ih ((scan_layer_eq_nil_iff hl (by simpa using ht) depth).mp h))

end JsonShape
