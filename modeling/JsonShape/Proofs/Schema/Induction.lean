import JsonShape.Schema.Basic

/-!
# Induction over schemas

`LayerOver inner rule` says that `rule` is a layer of `optional` or `nullable` around `inner`.  Most facts
hold of both kinds of layer for the same reason, and of the three primitive rules as well, so
`Schema.induct` has one case for each of these groups, one for records with a hypothesis for every field,
and one for arrays.  `Schema.induct_child` takes arrays and layers together, as rules around another one.

The recursive definitions over schemas that go through a second function for the fields
(`Schema.depth`, `Schema.Distinct`) are restated with the membership of the field.  Equality of schemas, with the
order of fields, is decided by `Schema.isEqual`.
-/

namespace JsonShape

/-- `rule` is a layer around `inner`. -/
inductive LayerOver (inner : Schema) : Schema → Prop
  | optional : LayerOver inner (.optional inner)
  | nullable : LayerOver inner (.nullable inner)

namespace Schema

/-- Induction over schemas by groups of rules. -/
@[elab_as_elim, induction_eliminator]
theorem induct {motive : Schema → Prop} (primitive : ∀ rule : Schema, rule.isPrimitive → motive rule)
    (construct : ∀ fields, (∀ field ∈ fields, motive field.2) → motive (construct fields))
    (layer : ∀ inner rule, LayerOver inner rule → motive inner → motive rule)
    (array : ∀ item, motive item → motive (array item)) (rule : Schema) : motive rule :=
  @Schema.rec motive (fun fields => ∀ field ∈ fields, motive field.2) (fun field => motive field.2)
    (primitive _ rfl) (primitive _ rfl) (primitive _ rfl) construct
    (fun inner => layer inner _ .optional) (fun inner => layer inner _ .nullable) array (by simp)
    (fun _ _ first others => List.forall_mem_cons.mpr ⟨first, others⟩) (fun _ _ rule => rule) rule

theorem child?_of_primitive {rule : Schema} (h : rule.isPrimitive) : rule.child? = none := by
  cases rule <;> first | rfl | cases h

/-- Induction over schemas with one case for all rules around another one. -/
@[elab_as_elim]
theorem induct_child {motive : Schema → Prop} (primitive : ∀ rule : Schema, rule.isPrimitive → motive rule)
    (construct : ∀ fields, (∀ field ∈ fields, motive field.2) → motive (construct fields))
    (around : ∀ inner rule : Schema, rule.child? = some inner → motive inner → motive rule) (rule : Schema) :
    motive rule := by
  induction rule with
  | primitive rule hp => exact primitive rule hp
  | construct fields ih => exact construct fields ih
  | layer inner rule hl ih => exact around inner rule (by cases hl <;> rfl) ih
  | array item ih => exact around item _ rfl ih

theorem depth_pos (rule : Schema) : 0 < rule.depth := by
  cases rule <;> simp only [depth] <;> omega

theorem depth_of_primitive {rule : Schema} (h : rule.isPrimitive) : rule.depth = 1 := by
  cases rule <;> first | rfl | cases h

theorem lt_depthOfFields_iff {fields : List (String × Schema)} {n : Nat} :
    n < depthOfFields fields ↔ ∃ field ∈ fields, n < field.2.depth := by
  induction fields with
  | nil => simp [depthOfFields]
  | cons field rest ih =>
    have hmax : n < max field.2.depth (depthOfFields rest) ↔ n < field.2.depth ∨ n < depthOfFields rest := by
      omega
    simp [depthOfFields, hmax, ih]

theorem depth_lt_construct {fields : List (String × Schema)} {field : String × Schema}
    (h : field ∈ fields) : field.2.depth < (construct fields).depth := by
  have hle : field.2.depth ≤ depthOfFields fields :=
    Nat.le_of_not_lt fun hlt => Nat.lt_irrefl _ (lt_depthOfFields_iff.mpr ⟨field, h, hlt⟩)
  rw [depth]
  omega

theorem distinctFields_iff {fields : List (String × Schema)} :
    DistinctFields fields ↔ ∀ field ∈ fields, Distinct field.2 := by
  induction fields with
  | nil => simp [DistinctFields]
  | cons first rest ih => simp [DistinctFields, ih]

theorem distinct_iff_child {rule inner : Schema} (h : rule.child? = some inner) :
    rule.Distinct ↔ inner.Distinct := by
  cases rule with
  | optional | nullable | array =>
    cases h
    rfl
  | string | number | boolean | construct => cases h

/-! ## Equality -/

mutual

/-- Whether two schemas are the same, with their fields in the same order. -/
def isEqual : Schema → Schema → Bool
  | string, string => true
  | number, number => true
  | boolean, boolean => true
  | construct fields, construct others => isEqualFields fields others
  | optional inner, optional other => isEqual inner other
  | nullable inner, nullable other => isEqual inner other
  | array item, array other => isEqual item other
  | _, _ => false

def isEqualFields : List (String × Schema) → List (String × Schema) → Bool
  | [], [] => true
  | (name, rule) :: rest, (key, other) :: others => name == key && (isEqual rule other && isEqualFields rest others)
  | _, _ => false

end

theorem isEqualFields_iff {fields : List (String × Schema)}
    (h : ∀ field ∈ fields, ∀ other, isEqual field.2 other = true ↔ field.2 = other)
    (others : List (String × Schema)) : isEqualFields fields others = true ↔ fields = others := by
  induction fields generalizing others with
  | nil => cases others <;> simp [isEqualFields]
  | cons field rest ih =>
    obtain ⟨hfield, hrest⟩ := List.forall_mem_cons.mp h
    cases others with
    | nil => simp [isEqualFields]
    | cons other others => simp [isEqualFields, hfield, ih hrest, Prod.ext_iff, and_assoc]

theorem isEqual_iff {first second : Schema} : first.isEqual second = true ↔ first = second := by
  induction first generalizing second with
  | primitive rule hp =>
    cases rule with
    | string | number | boolean => cases second <;> simp [isEqual]
    | construct | optional | nullable | array => cases hp
  | construct fields ih =>
    have hfields := isEqualFields_iff fun field hf other => ih field hf
    cases second <;> simp [isEqual, hfields]
  | layer inner rule hl ih =>
    cases hl with
    | optional | nullable => cases second <;> simp [isEqual, ih]
  | array item ih => cases second <;> simp [isEqual, ih]

instance : DecidableEq Schema := fun _ _ => decidable_of_iff _ isEqual_iff

end Schema

namespace LayerOver

variable {inner rule : Schema} (h : LayerOver inner rule)
include h

theorem expected : rule.expected = inner.expected := by cases h <;> rfl

theorem depth : rule.depth = inner.depth + 1 := by
  cases h <;> rw [Schema.depth] <;> omega

theorem distinct (hd : rule.Distinct) : inner.Distinct := by cases h <;> exact hd

end LayerOver

end JsonShape
