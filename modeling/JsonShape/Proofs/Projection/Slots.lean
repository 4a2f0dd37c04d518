import JsonShape.Proofs.Projection.ItemNames

/-!
# Items in slots

A record stands before the records in it, although its declaration is not complete before theirs are.  So the
items can also be made in one pass over a list of slots: a record claims its name, reserves a slot, has its
fields declared and then fills the slot.  Whether a field has to tell a missing key from `null` is noted on
the way.

That pass makes the same file: with every root it adds the items of `Declarations.declare`, each in a slot
that is filled (`emit_ofDeclarations`), so a whole session ends with the same text (`text_ofRoots`).
-/

namespace JsonShape

/-- A file in the making: its slots, of which the reserved ones have no item yet, the names that are taken,
and whether a field has been declared that has to tell a missing key from `null`. -/
structure Slots where
  items : List (Option Item)
  taken : List String
  needsPresent : Bool

namespace Slots

def empty : Slots := ⟨[], [], false⟩

/-- Takes the name that is free for a wanted one. -/
def claim (s : Slots) (wanted : String) : Slots := { s with taken := freeType wanted s.taken :: s.taken }

/-- Puts a slot at the end that is to be filled later. -/
def reserve (s : Slots) : Slots := { s with items := s.items ++ [none] }

/-- Puts an item into a slot. -/
def fill (s : Slots) (slot : Nat) (item : Item) : Slots := { s with items := s.items.set slot (some item) }

/-- Notes whether a field has to tell a missing key from `null`. -/
def note (s : Slots) (field : FieldDecl) : Slots :=
  { s with needsPresent := s.needsPresent || field.needsPresent }

mutual

/-- The type of a schema, for which a name is given in case it is a record, and the file with the items of
the records in it. -/
def emitType (wanted : String) : Schema → Slots → TypeExpr × Slots
  | .string, s => (.string, s)
  | .number, s => (.number, s)
  | .boolean, s => (.boolean, s)
  | .optional inner, s =>
    let (type, s) := emitType wanted inner s
    (.option type, s)
  | .nullable inner, s =>
    let (type, s) := emitType wanted inner s
    (.option type, s)
  | .array item, s =>
    let (type, s) := emitType (wanted ++ "Item") item s
    (.list type, s)
  | .construct fields, s =>
    let name := freeType wanted s.taken
    let (decls, after) := emitFields name [] fields (s.claim wanted).reserve
    (.named name, after.fill s.items.length (.struct name decls))

/-- The declarations of the fields of a record after those with the given identifiers, and the file with the
items of the records in them. -/
def emitFields (owner : String) (idents : List String) :
    List (String × Schema) → Slots → List FieldDecl × Slots
  | [], s => ([], s)
  | (key, rule) :: rest, s =>
    let ident := freeField (fieldIdent key) idents
    let (type, s) := emitType (owner ++ typeIdent key) rule s
    let field : FieldDecl := ⟨ident, key, rule.admitsMissing, rule.admitsNull, type⟩
    let (others, s) := emitFields owner (ident :: idents) rest (s.note field)
    (field :: others, s)

end

/-- Adds the items of a schema under the name of its root. -/
def emit (s : Slots) (schema : Schema) (root : String) : Slots :=
  let wanted := typeIdent root
  if Declarations.isRecord schema then (emitType wanted schema s).2
  else
    let name := freeType wanted s.taken
    let (type, after) := emitType name schema (s.claim wanted).reserve
    after.fill s.items.length (.synonym name type)

/-- The file after several roots, one after another. -/
def ofRoots (roots : List (Schema × String)) : Slots :=
  roots.foldl (fun s root => s.emit root.1 root.2) .empty

/-- The source text; a slot that is not filled has none. -/
def text (s : Slots) : String :=
  Declarations.heading ++ (if s.needsPresent then Declarations.presentReader else "") ++
    String.join (s.items.map fun slot => "\n" ++ (slot.map Item.text).getD "")

/-! ## What one pass adds -/

/-- Whether a field of these items has to tell a missing key from `null`. -/
def anyPresent (items : List Item) : Bool := items.any fun item => item.fields.any FieldDecl.needsPresent

/-- The file with further items in filled slots. -/
def add (s : Slots) (fields : List FieldDecl) (items : List Item) (taken : List String) : Slots :=
  ⟨s.items ++ items.map some, taken, s.needsPresent || fields.any FieldDecl.needsPresent || anyPresent items⟩

theorem anyPresent_append (items more : List Item) :
    anyPresent (items ++ more) = (anyPresent items || anyPresent more) := List.any_append

/-- A slot that was reserved at the end of the file is filled in its place. -/
theorem fill_reserved (s : Slots) (wanted : String) (item : Item) (items : List Item) (taken : List String) :
    (((s.claim wanted).reserve.add item.fields items taken).fill s.items.length item) =
      s.add [] (item :: items) taken := by
  simp [claim, reserve, add, fill, anyPresent, Bool.or_assoc]

/-- The fields of a record add the items of the records in them, as soon as each of them does. -/
theorem emitFields_eq {fields : List (String × Schema)}
    (h : ∀ field ∈ fields, ∀ wanted s, emitType wanted field.2 s =
      ((typeOf wanted s.taken field.2).1,
        s.add [] (typeOf wanted s.taken field.2).2.1 (typeOf wanted s.taken field.2).2.2))
    (owner : String) (idents : List String) (s : Slots) :
    emitFields owner idents fields s = ((fieldDecls owner idents s.taken fields).1,
      s.add (fieldDecls owner idents s.taken fields).1 (fieldDecls owner idents s.taken fields).2.1
        (fieldDecls owner idents s.taken fields).2.2) := by
  induction fields generalizing idents s with
  | nil => simp [emitFields, fieldDecls, add, anyPresent]
  | cons field rest ih =>
    obtain ⟨hfield, hrest⟩ := List.forall_mem_cons.mp h
    obtain ⟨key, rule⟩ := field
    rw [emitFields, fieldDecls, hfield]
    simp only [ih hrest, add, note, anyPresent_append, List.any_nil, List.any_cons, Bool.or_false,
      List.map_append, List.append_assoc, Prod.mk.injEq, true_and, Slots.mk.injEq]
    ac_rfl

/-- **The items of a schema are added in filled slots**, in the order of `typeOf`. -/
theorem emitType_eq (schema : Schema) (wanted : String) (s : Slots) :
    emitType wanted schema s = ((typeOf wanted s.taken schema).1,
      s.add [] (typeOf wanted s.taken schema).2.1 (typeOf wanted s.taken schema).2.2) := by
  induction schema generalizing wanted s with
  | primitive schema hp =>
    cases schema with
    | string | number | boolean => simp [emitType, typeOf, add, anyPresent]
    | construct | optional | nullable | array => cases hp
  | construct fields ih =>
    have hfields := emitFields_eq ih (freeType wanted s.taken) [] (s.claim wanted).reserve
    rw [emitType, hfields, typeOf]
    exact congrArg (Prod.mk _) (fill_reserved s wanted (.struct _ _) _ _)
  | array item ih => rw [emitType, ih, typeOf]
  | layer inner schema hl ih =>
    cases hl with
    | optional => rw [emitType, ih, typeOf]
    | nullable => rw [emitType, ih, typeOf]

/-! ## Sessions -/

/-- The file in which every declaration stands in a filled slot. -/
def ofDeclarations (d : Declarations) : Slots := ⟨d.items.map some, d.taken, d.needsPresent⟩

theorem add_ofDeclarations (d : Declarations) (items : List Item) (taken : List String) :
    (ofDeclarations d).add [] items taken = ofDeclarations ⟨d.items ++ items, taken⟩ := by
  simp [ofDeclarations, add, Declarations.needsPresent, anyPresent]

/-- **One more root adds the same items**, and leaves no slot without one. -/
theorem emit_ofDeclarations (d : Declarations) (schema : Schema) (root : String) :
    (ofDeclarations d).emit schema root = ofDeclarations (d.declare schema root) := by
  unfold emit Declarations.declare
  by_cases hrecord : Declarations.isRecord schema = true
  · rw [if_pos hrecord, if_pos hrecord, emitType_eq]
    exact add_ofDeclarations d _ _
  · rw [if_neg hrecord, if_neg hrecord]
    simp only [emitType_eq]
    have hfill := fill_reserved (ofDeclarations d) (typeIdent root) (.synonym
      (freeType (typeIdent root) d.taken) (typeOf (freeType (typeIdent root) d.taken)
        (freeType (typeIdent root) d.taken :: d.taken) schema).1)
    exact (hfill _ _).trans (add_ofDeclarations d _ _)

theorem ofRoots_eq (roots : List (Schema × String)) :
    ofRoots roots = ofDeclarations (Declarations.ofRoots roots) := by
  induction roots using List.reverseRecOn with
  | nil => rfl
  | append_singleton roots root ih =>
    have hstep : ofRoots (roots ++ [root]) = (ofRoots roots).emit root.1 root.2 := by
      rw [ofRoots, List.foldl_append]
      rfl
    rw [hstep, ih, emit_ofDeclarations, Declarations.ofRoots_concat]

theorem text_ofDeclarations (d : Declarations) : (ofDeclarations d).text = d.text := by
  simp only [text, ofDeclarations, Declarations.text, List.map_map, Function.comp_def, Option.map_some,
    Option.getD_some]
  rfl

/-- The text of a session is the same in one pass. -/
theorem text_ofRoots (roots : List (Schema × String)) :
    (ofRoots roots).text = (Declarations.ofRoots roots).text := by
  rw [ofRoots_eq, text_ofDeclarations]

end Slots

end JsonShape
