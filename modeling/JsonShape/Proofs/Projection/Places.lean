import JsonShape.Proofs.Projection.JsonSchema
import JsonShape.Proofs.Projection.RoundTrip
import JsonShape.Proofs.Validation.Place

/-!
# Places in the JSON Schema and in declared types

A path that leads to a rule of a schema leads to the JSON Schema of that rule (`subschemaAt?_jsonSchema`), and
through the declared types to a type of that rule (`typeAt?_declared`).  Layers are looked through in both: the
JSON Schema of a layer of `nullable` is the first branch of a `oneOf`, and any layer is an `Option` in a type.

`Json.required` and `Declarations.fieldAt?` say what a record has there for a key.
-/

namespace JsonShape

/-! ## The JSON Schema -/

namespace Json

/-- The JSON Schema under all layers, each of which is the first branch of a `oneOf`. -/
def unlayered : Json → Json
  | object [("oneOf", array (first :: _))] => unlayered first
  | schema => schema

/-- The JSON Schema one step further in. -/
def subschema? (schema : Json) : Step → Option Json
  | .field name => (Members.get? "properties" schema.unlayered.members).bind fun properties =>
    Members.get? name properties.members
  | .index _ => Members.get? "items" schema.unlayered.members

/-- The JSON Schema at a place. -/
def subschemaAt? (schema : Json) (path : Path) : Option Json := follow subschema? schema path

/-- The list of required names, which is empty if it is left out. -/
def required (schema : Json) : List Json :=
  ((Members.get? "required" schema.unlayered.members).map items).getD []

end Json

theorem LayerOver.unlayered_jsonSchema {inner rule : Schema} (h : LayerOver inner rule) :
    rule.jsonSchema.unlayered = inner.jsonSchema.unlayered := by
  cases h with
  | optional => rfl
  | nullable => rw [Schema.jsonSchema, Schema.keywordsOf, Json.unlayered, Schema.jsonSchema]

theorem unlayered_jsonSchema (rule : Schema) : rule.jsonSchema.unlayered = rule.base.jsonSchema := by
  induction rule with
  | primitive rule hp =>
    cases rule with
    | string | number | boolean => simp [Schema.jsonSchema, Schema.keywordsOf, Json.unlayered, Schema.base]
    | construct | optional | nullable | array => cases hp
  | construct fields _ => simp [Schema.jsonSchema, Schema.keywordsOf, Json.unlayered, Schema.base]
  | array item _ => simp [Schema.jsonSchema, Schema.keywordsOf, Json.unlayered, Schema.base]
  | layer inner rule hl ih => rw [hl.unlayered_jsonSchema, hl.base, ih]

theorem get?_properties (name : String) (fields : List (String × Schema)) :
    Members.get? name (Schema.properties fields) = (Members.get? name fields).map Schema.jsonSchema := by
  induction fields with
  | nil => rfl
  | cons field rest ih =>
    rw [Schema.properties, Members.get?, Members.get?, ih]
    split <;> rfl

/-- One step into a rule is one step into its JSON Schema. -/
theorem subschema?_jsonSchema {rule inner : Schema} {step : Step} (h : rule.inside? step = some inner) :
    rule.jsonSchema.subschema? step = some inner.jsonSchema := by
  cases step with
  | field name =>
    obtain ⟨fields, hb, hget⟩ := Schema.inside?_field_eq_some_iff.mp h
    rw [Json.subschema?, unlayered_jsonSchema, hb]
    have hproperties := get?_properties name fields
    rw [hget] at hproperties
    exact hproperties
  | index i =>
    rw [Json.subschema?, unlayered_jsonSchema, Schema.inside?_index_eq_some_iff.mp h]
    rfl

/-- **A path to a rule leads to its JSON Schema.** -/
theorem subschemaAt?_jsonSchema {rule inner : Schema} {path : Path} (h : rule.at? path = some inner) :
    rule.jsonSchema.subschemaAt? path = some inner.jsonSchema := by
  have hstep : ∀ (rule : Schema) (keywords : Json), keywords = rule.jsonSchema →
      ∀ step inner, rule.inside? step = some inner →
        ∃ keywords', keywords.subschema? step = some keywords' ∧ keywords' = inner.jsonSchema := by
    rintro rule _ rfl step inner hi
    exact ⟨_, subschema?_jsonSchema hi, rfl⟩
  obtain ⟨_, hfollow, rfl⟩ := follow_simulates hstep rfl h
  exact hfollow

/-- The names are the required ones of the record. -/
theorem required_jsonSchema {rule : Schema} {fields : List (String × Schema)}
    (hb : rule.base = .construct fields) :
    rule.jsonSchema.required = (Schema.requiredNames fields).map Json.string := by
  have hget : Members.get? "required" (Schema.construct fields).jsonSchema.members =
      Members.get? "required" (Schema.requiredKeyword (Schema.requiredNames fields)) := rfl
  rw [Json.required, unlayered_jsonSchema, hb, hget]
  cases Schema.requiredNames fields with
  | nil => rfl
  | cons name rest => rfl

/-- **A name is required unless the rule of its field may be missing.** -/
theorem mem_required_iff {rule inner : Schema} (hd : rule.Distinct) {name : String}
    (h : rule.inside? (.field name) = some inner) :
    Json.string name ∈ rule.jsonSchema.required ↔ inner.admitsMissing = false := by
  obtain ⟨fields, hb, hget⟩ := Schema.inside?_field_eq_some_iff.mp h
  have hnodup := Schema.nodup_names_of_base hd hb
  rw [required_jsonSchema hb, List.mem_map_of_injective fun _ _ => Json.string.inj,
    Schema.mem_requiredNames_iff]
  constructor
  · rintro ⟨field, hf, rfl, hm⟩
    rw [Members.get?_of_mem hnodup hf] at hget
    rwa [← Option.some.inj hget]
  · intro hm
    exact ⟨(name, inner), Members.mem_of_get? hget, rfl, hm⟩

/-! ## Declared types -/

namespace TypeExpr

/-- The type inside of every `Option` that it begins with. -/
def unlayered : TypeExpr → TypeExpr
  | option inner => unlayered inner
  | type => type

/-- The number of `Option`s that a type begins with. -/
def options : TypeExpr → Nat
  | option inner => options inner + 1
  | _ => 0

end TypeExpr

namespace Declarations

/-- The field of a record type that is read from a key. -/
def fieldAt? (d : Declarations) (type : TypeExpr) (key : String) : Option FieldDecl :=
  match type.unlayered with
  | .named record => (d.record? record).bind fun fields => fields.find? fun field => field.wire == key
  | _ => none

/-- The type one step further in. -/
def typeInside? (d : Declarations) (type : TypeExpr) : Step → Option TypeExpr
  | .field key => (d.fieldAt? type key).map FieldDecl.type
  | .index _ =>
    match type.unlayered with
    | .list item => some item
    | _ => none

/-- The type at a place. -/
def typeAt? (d : Declarations) (type : TypeExpr) (path : Path) : Option TypeExpr :=
  follow d.typeInside? type path

/-- The type is one for the rule, and the records that it names are declared. -/
def TypeFor (d : Declarations) (rule : Schema) (type : TypeExpr) : Prop :=
  ∃ wanted taken, type = (typeOf wanted taken rule).1 ∧ (typeOf wanted taken rule).2.1 ⊆ d.items

variable {d : Declarations} {rule inner : Schema} {type : TypeExpr}

/-- Every layer is an `Option` of the type, and what is inside of them is a type for the base rule. -/
theorem TypeFor.base (h : d.TypeFor rule type) :
    d.TypeFor rule.base type.unlayered ∧ type.options = rule.layers := by
  induction rule generalizing type with
  | primitive rule hp =>
    cases rule with
    | string | number | boolean =>
      obtain ⟨wanted, taken, rfl, hsub⟩ := h
      exact ⟨⟨wanted, taken, rfl, hsub⟩, rfl⟩
    | construct | optional | nullable | array => cases hp
  | construct fields _ =>
    obtain ⟨wanted, taken, rfl, hsub⟩ := h
    exact ⟨⟨wanted, taken, rfl, hsub⟩, rfl⟩
  | array item _ =>
    obtain ⟨wanted, taken, rfl, hsub⟩ := h
    exact ⟨⟨wanted, taken, rfl, hsub⟩, rfl⟩
  -- one layer is one `Option`, and the items are those of the rule inside
  | layer inner rule hl ih =>
    obtain ⟨wanted, taken, rfl, hsub⟩ := h
    rw [hl.typeOf] at hsub ⊢
    obtain ⟨hbase, hoptions⟩ := ih ⟨wanted, taken, rfl, hsub⟩
    have hlayers : rule.layers = inner.layers + 1 := by cases hl <;> rw [Schema.layers]
    rw [hl.base, hlayers]
    exact ⟨hbase, congrArg (· + 1) hoptions⟩

/-- The field that is declared for a key, with what the rule of the key lets through. -/
theorem exists_fieldDecl {key : String} {fields : List (String × Schema)}
    (h : Members.get? key fields = some inner) (owner : String) (idents taken : List String) :
    ∃ field, (fieldDecls owner idents taken fields).1.find? (fun field => field.wire == key) = some field ∧
      field.mayMiss = inner.admitsMissing ∧ field.mayBeNull = inner.admitsNull ∧
      ∃ wanted taken', field.type = (typeOf wanted taken' inner).1 ∧
        (typeOf wanted taken' inner).2.1 ⊆ (fieldDecls owner idents taken fields).2.1 := by
  -- identifiers and names that are taken grow from field to field, but the key of a field does not depend on
  -- them
  induction fields generalizing idents taken with
  | nil => cases h
  | cons first rest ih =>
    obtain ⟨name, rule⟩ := first
    let found := typeOf (owner ++ typeIdent name) taken rule
    let first : FieldDecl :=
      ⟨freeField (fieldIdent name) idents, name, rule.admitsMissing, rule.admitsNull, found.1⟩
    let others := fieldDecls owner (first.ident :: idents) found.2.2 rest
    have hdecls : fieldDecls owner idents taken ((name, rule) :: rest) =
      (first :: others.1, found.2.1 ++ others.2.1, others.2.2) := rfl
    rw [hdecls]
    rw [Members.get?] at h
    by_cases hk : name = key
    · rw [if_pos hk] at h
      obtain rfl := Option.some.inj h
      have hwire : (first.wire == key) = true := by rw [first.wire_eq, beq_iff_eq, ← hk]
      exact ⟨first, List.find?_cons_of_pos hwire, rfl, rfl, owner ++ typeIdent name, taken, rfl,
        List.subset_append_left _ _⟩
    · rw [if_neg hk] at h
      have hwire : ¬ (first.wire == key) = true := by rwa [first.wire_eq, beq_iff_eq]
      obtain ⟨field, hfind, hmiss, hnull, wanted, taken', htype, hsub⟩ :=
        ih h (first.ident :: idents) found.2.2
      refine ⟨field, ?_, hmiss, hnull, wanted, taken', htype, List.subset_append_of_subset_right _ hsub⟩
      rw [List.find?_cons, Bool.eq_false_iff.mpr hwire]
      exact hfind

/-- A key of a record has a field, with what its rule lets through and a type for its rule. -/
theorem TypeFor.fieldAt? (hnames : (d.items.map Item.name).Nodup) (h : d.TypeFor rule type) {key : String}
    (hi : rule.inside? (.field key) = some inner) : ∃ field, d.fieldAt? type key = some field ∧
      field.mayMiss = inner.admitsMissing ∧ field.mayBeNull = inner.admitsNull ∧ d.TypeFor inner field.type := by
  obtain ⟨fields, hb, hget⟩ := Schema.inside?_field_eq_some_iff.mp hi
  obtain ⟨⟨wanted, taken, htype, hsub⟩, -⟩ := h.base
  rw [hb] at htype hsub
  let name := freeType wanted taken
  let decls := fieldDecls name [] (name :: taken) fields
  have hrecord : typeOf wanted taken (.construct fields) =
      (.named name, .struct name decls.1 :: decls.2.1, decls.2.2) := rfl
  rw [hrecord] at htype hsub
  obtain ⟨hmem, hothers⟩ := List.cons_subset.mp hsub
  obtain ⟨field, hfind, hmiss, hnull, wanted', taken', hfield, hmore⟩ :=
    exists_fieldDecl hget name [] (name :: taken)
  refine ⟨field, ?_, hmiss, hnull, wanted', taken', hfield, List.Subset.trans hmore hothers⟩
  rw [Declarations.fieldAt?, htype]
  show (d.record? name).bind _ = _
  rw [record?_of_mem hnames hmem]
  exact hfind

/-- One step into a rule is one step into a type for it. -/
theorem TypeFor.inside? (hnames : (d.items.map Item.name).Nodup) (h : d.TypeFor rule type) {step : Step}
    (hi : rule.inside? step = some inner) :
    ∃ type', d.typeInside? type step = some type' ∧ d.TypeFor inner type' := by
  cases step with
  | field key =>
    obtain ⟨field, hfield, -, -, htype⟩ := h.fieldAt? hnames hi
    exact ⟨field.type, by rw [typeInside?, hfield]; rfl, htype⟩
  | index i =>
    obtain ⟨⟨wanted, taken, htype, hsub⟩, -⟩ := h.base
    rw [Schema.inside?_index_eq_some_iff.mp hi, typeOf] at htype hsub
    exact ⟨_, by rw [typeInside?, htype], wanted ++ "Item", taken, rfl, hsub⟩

/-- **A path to a rule leads to a type for it** in the file in which the types are declared. -/
theorem typeAt?_declared (hnames : (d.items.map Item.name).Nodup) (h : d.TypeFor rule type) {path : Path}
    (hp : rule.at? path = some inner) : ∃ type', d.typeAt? type path = some type' ∧ d.TypeFor inner type' :=
  follow_simulates (fun _ _ ht _ _ hi => ht.inside? hnames hi) h hp

end Declarations

end JsonShape
