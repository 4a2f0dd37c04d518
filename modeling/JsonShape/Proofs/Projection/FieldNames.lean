import JsonShape.Proofs.Projection.Declared
import JsonShape.Proofs.Projection.Identifiers
import JsonShape.Proofs.Schema.Records
import Mathlib.Data.List.Forall2

/-!
# Fields of declared records

A record is declared with one field for each of its own, under the same key and with an identifier that is free
among those before it (`wellNamed_fieldDecls`).  The records of a schema are declared in the order of
`Schema.records`, and so those of all roots of a file in theirs (`declaredBy_ofRoots`).
-/

namespace JsonShape

/-- The fields of an item that is a record. -/
def Item.record? : Item → Option (List FieldDecl)
  | struct _ fields => some fields
  | synonym _ _ => none

/-- The declared fields have the names of the record as keys, in the same order, and identifiers that are made of
these and all differ. -/
structure WellNamed (record : List (String × Schema)) (fields : List FieldDecl) : Prop where
  keys : fields.map FieldDecl.key = Members.names record
  idents : ∀ field ∈ fields, ∃ taken, field.ident = freeField (fieldIdent field.key) taken
  nodup : (fields.map FieldDecl.ident).Nodup

namespace WellNamed

variable {record : List (String × Schema)} {fields : List FieldDecl} (h : WellNamed record fields)
include h

theorem fieldName : ∀ field ∈ fields, FieldName field.ident := by
  intro field hf
  obtain ⟨taken, he⟩ := h.idents field hf
  rw [he]
  exact fieldName_freeField field.key taken

theorem isIdentifier {field : FieldDecl} (hf : field ∈ fields) (hk : Ascii field.key) :
    IsIdentifier field.ident := by
  obtain ⟨taken, he⟩ := h.idents field hf
  rw [he]
  exact isIdentifier_freeField hk taken

/-- Also without their marks the identifiers differ. -/
theorem nodup_unraw : (fields.map fun field => unraw field.ident).Nodup := by
  have hmap : (fields.map fun field => unraw field.ident) = (fields.map FieldDecl.ident).map unraw := by
    rw [List.map_map]
    rfl
  rw [hmap]
  refine h.nodup.map_on fun ident hi other ho he => ?_
  obtain ⟨field, hf, rfl⟩ := List.mem_map.mp hi
  obtain ⟨field', hf', rfl⟩ := List.mem_map.mp ho
  exact (h.fieldName field hf).unraw_inj (h.fieldName field' hf') he

end WellNamed

/-! ## One record -/

/-- The fields of a record are well named, and none of them has an identifier that was taken. -/
theorem wellNamed_fieldDecls (owner : String) (idents taken : List String) (record : List (String × Schema)) :
    WellNamed record (fieldDecls owner idents taken record).1 ∧
      ∀ field ∈ (fieldDecls owner idents taken record).1, field.ident ∉ idents := by
  induction record generalizing idents taken with
  | nil => exact ⟨⟨rfl, List.forall_mem_nil _, List.nodup_nil⟩, List.forall_mem_nil _⟩
  | cons member rest ih =>
    obtain ⟨key, rule⟩ := member
    let ident := freeField (fieldIdent key) idents
    have hfree : ident ∉ idents := firstFree_notMem _ _ _
    obtain ⟨hrest, hothers⟩ := ih (ident :: idents) (typeOf (owner ++ typeIdent key) taken rule).2.2
    rw [fieldDecls]
    refine ⟨⟨?_, ?_, ?_⟩, ?_⟩
    · exact congrArg (key :: ·) hrest.keys
    · exact List.forall_mem_cons.mpr ⟨⟨idents, rfl⟩, hrest.idents⟩
    · refine List.nodup_cons.mpr ⟨fun hm => ?_, hrest.nodup⟩
      obtain ⟨field, hf, he⟩ := List.mem_map.mp hm
      exact hothers field hf (he ▸ List.mem_cons_self)
    · refine List.forall_mem_cons.mpr ⟨hfree, fun field hf hm => ?_⟩
      exact hothers field hf (List.mem_cons_of_mem _ hm)

/-! ## All records of a schema -/

/-- Each record is declared by an item, in the same order; items that are no records may stand in between. -/
def DeclaredBy (records : List (List (String × Schema))) (items : List Item) : Prop :=
  List.Forall₂ WellNamed records (items.filterMap Item.record?)

theorem DeclaredBy.append {records more : List (List (String × Schema))} {items others : List Item}
    (h : DeclaredBy records items) (h' : DeclaredBy more others) :
    DeclaredBy (records ++ more) (items ++ others) := by
  rw [DeclaredBy, List.filterMap_append]
  exact List.rel_append h h'

/-- The items of a record that is declared are well named. -/
theorem DeclaredBy.wellNamed {records : List (List (String × Schema))} {items : List Item}
    (h : DeclaredBy records items) {name : String} {fields : List FieldDecl} (hi : .struct name fields ∈ items) :
    ∃ record, WellNamed record fields := by
  have hmem : fields ∈ items.filterMap Item.record? := List.mem_filterMap.mpr ⟨_, hi, rfl⟩
  unfold DeclaredBy at h
  generalize items.filterMap Item.record? = declared at h hmem
  induction h with
  | nil => cases hmem
  | cons hfirst _ ih =>
    rcases List.mem_cons.mp hmem with rfl | hmem
    · exact ⟨_, hfirst⟩
    · exact ih hmem

theorem declaredBy_fieldDecls {fields : List (String × Schema)}
    (h : ∀ field ∈ fields, ∀ wanted taken, DeclaredBy field.2.records (typeOf wanted taken field.2).2.1)
    (owner : String) (idents taken : List String) :
    DeclaredBy (Schema.recordsOfFields fields) (fieldDecls owner idents taken fields).2.1 := by
  induction fields generalizing idents taken with
  | nil => exact .nil
  | cons field rest ih =>
    obtain ⟨hfield, hrest⟩ := List.forall_mem_cons.mp h
    obtain ⟨key, rule⟩ := field
    exact (hfield _ _).append (ih hrest _ _)

theorem declaredBy_typeOf (schema : Schema) (wanted : String) (taken : List String) :
    DeclaredBy schema.records (typeOf wanted taken schema).2.1 := by
  induction schema generalizing wanted taken with
  | primitive schema hp =>
    rw [Schema.records_of_primitive hp]
    cases schema with
    | string | number | boolean => exact .nil
    | construct | optional | nullable | array => cases hp
  | construct fields ih =>
    obtain ⟨hfields, -⟩ := wellNamed_fieldDecls (freeType wanted taken) [] (freeType wanted taken :: taken) fields
    rw [typeOf, Schema.records]
    exact .cons hfields (declaredBy_fieldDecls ih _ _ _)
  | array item ih => exact ih (wanted ++ "Item") taken
  | layer inner schema hl ih =>
    cases hl with
    | optional => exact ih wanted taken
    | nullable => exact ih wanted taken

namespace Declarations

theorem declaredBy_declare (d : Declarations) (schema : Schema) (root : String) : ∃ items,
    (d.declare schema root).items = d.items ++ items ∧ DeclaredBy schema.records items := by
  unfold declare
  by_cases hrecord : isRecord schema = true
  · rw [if_pos hrecord]
    exact ⟨_, rfl, declaredBy_typeOf schema _ _⟩
  · rw [if_neg hrecord]
    -- the synonym is no record
    exact ⟨_, rfl, declaredBy_typeOf schema (freeType (typeIdent root) d.taken)
      (freeType (typeIdent root) d.taken :: d.taken)⟩

/-- **The records of a file are those of its roots**, and their fields are well named. -/
theorem declaredBy_ofRoots (roots : List (Schema × String)) :
    DeclaredBy (roots.flatMap fun root => root.1.records) (ofRoots roots).items := by
  induction roots using List.reverseRecOn with
  | nil => exact .nil
  | append_singleton roots root ih =>
    obtain ⟨new, hnew, hdeclared⟩ := (ofRoots roots).declaredBy_declare root.1 root.2
    rw [ofRoots_concat, hnew, List.flatMap_append, List.flatMap_singleton]
    exact ih.append hdeclared

end Declarations

end JsonShape
