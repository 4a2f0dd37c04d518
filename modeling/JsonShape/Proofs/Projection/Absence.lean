import JsonShape.Proofs.Projection.Places
import JsonShape.Proofs.Projection.ShapePlaces
import JsonShape.Proofs.Validation.Edited
import Mathlib.Data.List.TFAE

/-!
# Keys that may be missing or `null`

Whether a key may be missing, and whether it may be `null`, is decided in five places: by the check of a
document, by the rule of the field, by the required names of the JSON Schema, by the mark and the type in the
shape, and by the attributes of the declared field.  They all agree, for every field of every record in a schema
(`agree_on_absence`), and the declared type has an `Option` for each of the two.
-/

namespace JsonShape

open Schema

/-! ## The check -/

/-- Under a cap that covers the schema, a document is let through if it conforms. -/
theorem isOk_parse_iff {rule : Schema} {cap : Nat} (hcap : rule.depth ≤ cap) (input : Option Json) :
    (rule.parse input cap).isOk = true ↔ Conforms rule input := by
  cases hp : rule.parse input cap with
  | ok out => exact iff_of_true rfl ((parse_eq_ok_iff_conforms hcap).mp hp).1
  | error report =>
    refine iff_of_false Bool.false_ne_true fun hc => ?_
    rw [(parse_eq_ok_iff_conforms hcap).mpr ⟨hc, rfl⟩] at hp
    cases hp

section Check

variable {schema rule : Schema} {place : Path} {name : String}
variable {document : Json} {members : List (String × Json)}

/-- The record that a field of the schema belongs to. -/
theorem exists_record (h : schema.at? (place ++ [.field name]) = some rule) :
    ∃ record, schema.at? place = some record ∧ record.inside? (.field name) = some rule := by
  rw [at?, follow_concat] at h
  exact Option.bind_eq_some_iff.mp h

/-- An object in a document may be changed under a declared name to what conforms to the rule of the field. -/
theorem conforms_replaceAt_object_iff (hd : schema.Distinct)
    (h : schema.at? (place ++ [.field name]) = some rule) (hc : Conforms schema (some document))
    (hs : suppliedAt? (some document) place = some (some (.object members))) {others : List (String × Json)}
    (ho : ∀ other, name ≠ other → Members.get? other others = Members.get? other members) :
    Conforms schema (some (document.replaceAt place (.object others))) ↔
      Conforms rule (Members.get? name others) := by
  obtain ⟨record, hrecord, hfield⟩ := exists_record h
  rw [conforms_replaceAt_iff hd hrecord hc hs]
  exact conforms_iff_of_agree (distinct_of_at? hd hrecord) hfield (conforms_at hrecord hc hs) ho

/-- A document still conforms without a key exactly if the rule of the key may be missing. -/
theorem conforms_without_iff (hd : schema.Distinct) (h : schema.at? (place ++ [.field name]) = some rule)
    (hc : Conforms schema (some document))
    (hs : suppliedAt? (some document) place = some (some (.object members))) :
    Conforms schema (some (document.replaceAt place (.object (Members.without name members)))) ↔
      rule.admitsMissing = true := by
  rw [conforms_replaceAt_object_iff hd h hc hs fun other hne => by rw [Members.get?_without, if_neg hne],
    Members.get?_without, if_pos rfl, conforms_none_iff]

/-- A document still conforms with `null` for a key exactly if the rule of the key admits it. -/
theorem conforms_put_null_iff (hd : schema.Distinct) (h : schema.at? (place ++ [.field name]) = some rule)
    (hc : Conforms schema (some document))
    (hs : suppliedAt? (some document) place = some (some (.object members))) :
    Conforms schema (some (document.replaceAt place (.object (Members.put name .null members)))) ↔
      rule.admitsNull = true := by
  rw [conforms_replaceAt_object_iff hd h hc hs fun other => Members.get?_put_of_ne .null members,
    Members.get?_put_self, conforms_null_iff]

/-- Some document conforms and has an object where the schema has a record. -/
theorem exists_conforming_object (hd : schema.Distinct) (h : schema.at? (place ++ [.field name]) = some rule) :
    ∃ document members, Conforms schema (some document) ∧
      suppliedAt? (some document) place = some (some (.object members)) := by
  obtain ⟨record, hrecord, hfield⟩ := exists_record h
  obtain ⟨fields, hb, -⟩ := inside?_field_eq_some_iff.mp hfield
  have hsample := conforms_sample (distinct_of_at? hd hrecord)
  rw [← sample_base, hb, sample] at hsample
  obtain ⟨document, hc, hs⟩ := exists_conforming_at hd hrecord hsample
  exact ⟨document, _, hc, hs⟩

end Check

/-! ## The declared field -/

namespace FieldDecl

/-- The attribute names a reader for the field. -/
def NamesReader (given : String) : Prop := "deserialize_with = ".toList <+: given.toList

instance (given : String) : Decidable (NamesReader given) :=
  inferInstanceAs (Decidable ("deserialize_with = ".toList <+: given.toList))

theorem default_mem_attributes_iff (f : FieldDecl) : "default" ∈ f.attributes ↔ f.mayMiss = true := by
  rw [attributes]
  cases f.mayMiss <;> cases f.mayBeNull <;> decide

theorem exists_namesReader_iff (f : FieldDecl) :
    (∃ given ∈ f.attributes, NamesReader given) ↔ f.mayBeNull = true := by
  rw [attributes]
  cases f.mayMiss <;> cases f.mayBeNull <;> decide

end FieldDecl

namespace Schema

/-- There is a layer for each of what a rule lets through. -/
theorem admits_le_layers (rule : Schema) :
    rule.admitsMissing.toNat + rule.admitsNull.toNat ≤ rule.layers := by
  induction rule with
  | primitive rule hp =>
    cases rule with
    | string | number | boolean => decide
    | construct | optional | nullable | array => cases hp
  | construct fields _ => exact Nat.zero_le _
  | array item _ => exact Nat.zero_le _
  | layer inner rule hl ih =>
    have hmissing := inner.admitsMissing.toNat_le
    have hnull := inner.admitsNull.toNat_le
    cases hl with
    | optional =>
      rw [admitsMissing, admitsNull, layers, Bool.toNat_true]
      omega
    | nullable =>
      rw [admitsMissing, admitsNull, layers, Bool.toNat_true]
      omega

/-- Every layer lets something through. -/
theorem layers_eq_zero {rule : Schema} (hm : rule.admitsMissing = false) (hn : rule.admitsNull = false) :
    rule.layers = 0 := by
  cases rule with
  | optional => cases hm
  | nullable => cases hn
  | string | number | boolean | construct | array => rfl

theorem layers_of_admits (rule : Schema) :
    (rule.admitsMissing ∧ rule.admitsNull → 2 ≤ rule.layers) ∧
      (rule.admitsMissing ≠ rule.admitsNull → 1 ≤ rule.layers) ∧
      (¬ rule.admitsMissing ∧ ¬ rule.admitsNull → rule.layers = 0) := by
  have hlayers := rule.admits_le_layers
  refine ⟨fun hboth => ?_, fun hone => ?_, fun hneither => ?_⟩
  · rw [hboth.1, hboth.2] at hlayers
    exact hlayers
  · have hsum : 1 ≤ rule.admitsMissing.toNat + rule.admitsNull.toNat := by
      revert hone
      cases rule.admitsMissing <;> cases rule.admitsNull <;> decide
    exact Nat.le_trans hsum hlayers
  · exact layers_eq_zero (Bool.eq_false_iff.mpr hneither.1) (Bool.eq_false_iff.mpr hneither.2)

end Schema

/-! ## All together -/

/-- The first item of a root in a file of several has a type for the schema of the root. -/
theorem Declarations.exists_item_ofRoots (before after : List (Schema × String)) (schema : Schema)
    (root : String) :
    ∃ item, (ofRoots (before ++ (schema, root) :: after)).items[(ofRoots before).items.length]? = some item ∧
      (ofRoots (before ++ (schema, root) :: after)).TypeFor schema item.type := by
  obtain ⟨item, new, wanted, taken, hnew, htype, hsubset⟩ := (ofRoots before).declare_type schema root
  obtain ⟨later, hlater⟩ := ofRoots_append_items (before ++ [(schema, root)]) after
  have hitems : (ofRoots (before ++ (schema, root) :: after)).items =
      (ofRoots before).items ++ (item :: new ++ later) := by
    rw [List.append_assoc, List.singleton_append, ofRoots_concat, hnew] at hlater
    rw [hlater, List.append_assoc]
  refine ⟨item, ?_, wanted, taken, htype, ?_⟩
  · rw [hitems, List.getElem?_append_right (Nat.le_refl _), Nat.sub_self]
    rfl
  · rw [hitems]
    exact List.subset_append_of_subset_right _ (List.subset_append_of_subset_left _ hsubset)

/-- **The check and the projections agree on absence**: for every field of every record in a schema, whether its
key may be missing and whether it may be `null`.  Of documents that are let through, the ones with an object for
the record are asked; there are some.  The schema may be one of several roots in a file of declarations. -/
theorem agree_on_absence (before after : List (Schema × String)) {schema : Schema} (hd : schema.Distinct)
    (root : String) {cap : Nat} (hcap : schema.depth ≤ cap) {place : Path} {name : String} {rule : Schema}
    (h : schema.at? (place ++ [.field name]) = some rule) :
    let d := Declarations.ofRoots (before ++ (schema, root) :: after)
    ∃ keywords text marked type item record field,
      -- the record in the JSON Schema, in the shape and in the declarations
      schema.jsonSchema.subschemaAt? place = some keywords ∧
      ShapeText.typeAt? schema.shape.toList place = some text ∧
      Members.get? name (ShapeText.entriesOf text) = some (marked, type) ∧
      d.items[(Declarations.ofRoots before).items.length]? = some item ∧
      d.typeAt? item.type place = some record ∧ d.fieldAt? record name = some field ∧
      -- and in documents that are let through
      (∃ document members, (schema.parse (some document) cap).isOk ∧
        suppliedAt? (some document) place = some (some (.object members))) ∧
      (∀ document members, (schema.parse (some document) cap).isOk →
        suppliedAt? (some document) place = some (some (.object members)) →
        List.TFAE [
          (schema.parse (some (document.replaceAt place (.object (Members.without name members)))) cap).isOk,
          rule.admitsMissing,
          .string name ∉ keywords.required,
          marked,
          "default" ∈ field.attributes] ∧
        List.TFAE [
          (schema.parse (some (document.replaceAt place (.object (Members.put name .null members)))) cap).isOk,
          rule.admitsNull,
          "null".toList ∈ ShapeText.unionMembers type,
          ∃ given ∈ field.attributes, FieldDecl.NamesReader given]) ∧
      -- the declared type has an `Option` for each
      (rule.admitsMissing ∧ rule.admitsNull → 2 ≤ field.type.options) ∧
      (rule.admitsMissing ≠ rule.admitsNull → 1 ≤ field.type.options) ∧
      (¬ rule.admitsMissing ∧ ¬ rule.admitsNull → field.type.options = 0) := by
  intro d
  -- each projection is followed to the record, and its entry for the key is that of the rule
  obtain ⟨record, hrecord, hfield⟩ := exists_record h
  have hnames : (d.items.map Item.name).Nodup := (Declarations.nodup_names_ofRoots _).nodup
  obtain ⟨marked, hshape⟩ := ShapeText.typeAt?_shape hrecord
  obtain ⟨item, hitem, hroot⟩ := Declarations.exists_item_ofRoots before after schema root
  obtain ⟨type, htype, hrecordType⟩ := Declarations.typeAt?_declared hnames hroot hrecord
  obtain ⟨field, hdecl, hmiss, hnull, hfieldType⟩ := hrecordType.fieldAt? hnames hfield
  refine ⟨_, _, _, _, item, type, field, subschemaAt?_jsonSchema hrecord, hshape,
    ShapeText.get?_entriesOf marked hfield, hitem, htype, hdecl, ?_, ?_, ?_⟩
  · obtain ⟨document, members, hc, hs⟩ := exists_conforming_object hd h
    exact ⟨document, members, (isOk_parse_iff hcap _).mpr hc, hs⟩
  · intro document members hok hs
    rw [isOk_parse_iff hcap] at hok
    constructor
    · refine List.tfae_of_forall (rule.admitsMissing = true) _ ?_
      simp only [List.forall_mem_cons]
      refine ⟨?_, trivial, ?_, trivial, ?_, by simp⟩
      · rw [isOk_parse_iff hcap, conforms_without_iff hd h hok hs]
      · rw [mem_required_iff (distinct_of_at? hd hrecord) hfield, Bool.not_eq_false]
      · rw [FieldDecl.default_mem_attributes_iff, hmiss]
    · refine List.tfae_of_forall (rule.admitsNull = true) _ ?_
      simp only [List.forall_mem_cons]
      refine ⟨?_, trivial, ShapeText.null_mem_unionMembers_iff _ rule, ?_, by simp⟩
      · rw [isOk_parse_iff hcap, conforms_put_null_iff hd h hok hs]
      · rw [FieldDecl.exists_namesReader_iff, hnull]
  · have hoptions : field.type.options = rule.layers := hfieldType.base.2
    rw [hoptions]
    exact rule.layers_of_admits

/-- A key further in that may be missing and may be `null`. -/
theorem agree_on_absence_sample :
    let rule : Schema := .nullable (.optional .string)
    let schema : Schema := .array (.nullable (.construct [("id", .number), ("nick", rule)]))
    let d := Declarations.ofRoots [(.optional .string, "users"), (schema, "users")]
    schema.Distinct ∧ schema.depth ≤ 6 ∧ schema.at? ([.index 0] ++ [.field "nick"]) = some rule ∧
      ∃ keywords text type item record field,
        schema.jsonSchema.subschemaAt? [.index 0] = some keywords ∧
        ShapeText.typeAt? schema.shape.toList [.index 0] = some text ∧
        Members.get? "nick" (ShapeText.entriesOf text) = some (true, type) ∧
        d.items[1]? = some item ∧ d.typeAt? item.type [.index 0] = some record ∧
        d.fieldAt? record "nick" = some field ∧
        .string "nick" ∉ keywords.required ∧ "null".toList ∈ ShapeText.unionMembers type ∧
        "default" ∈ field.attributes ∧ 2 ≤ field.type.options := by
  intro rule schema d
  have hd : schema.Distinct := by simp [schema, rule, Schema.Distinct, Schema.DistinctFields, Members.names]
  have hat : schema.at? ([.index 0] ++ [.field "nick"]) = some rule := rfl
  have hcap : schema.depth ≤ 6 := by decide
  obtain ⟨keywords, text, marked, type, item, record, field, hkeywords, htext, hentry, hitem, hrecord, hfield,
    ⟨document, members, hok, hs⟩, hagree, hboth, -⟩ :=
    agree_on_absence [(.optional .string, "users")] [] hd "users" hcap hat
  -- the document that the theorem gives tells the groups apart, so each is read off as a whole
  obtain ⟨hmissing, hnull⟩ := hagree document members hok hs
  have hmarked : marked = true := (hmissing.out 1 3).mp rfl
  exact ⟨hd, hcap, hat, keywords, text, type, item, record, field, hkeywords, htext, hmarked ▸ hentry, hitem,
    hrecord, hfield, (hmissing.out 1 2).mp rfl, (hnull.out 1 2).mp rfl, (hmissing.out 1 4).mp rfl,
    hboth ⟨rfl, rfl⟩⟩

end JsonShape
