import JsonShape.Proofs.Projection.ItemNames

/-!
# Types and the items that they name

`Declares schema type items` says which item belongs to which record of a schema: the item of a record comes
first and is named by the type, and the items of the records in its fields come after it, field by field.  The
layers around a record are layers around its name.

The declarations of a root are such items, after a synonym unless the root is a record (`declare_declares`).
So there is one item for each record, and one for the synonym (`DeclaresRoot.length_eq`), and an item names
only items that come after it (`mentionsLater_ofRoots`).
-/

namespace JsonShape

/-- The names of declared types in a type; there is one at most. -/
def TypeExpr.names : TypeExpr → List String
  | option inner => inner.names
  | list item => item.names
  | named name => [name]
  | _ => []

/-- The names of declared types in an item. -/
def Item.mentions : Item → List String
  | struct _ fields => fields.flatMap fun field => field.type.names
  | synonym _ type => type.names

namespace Schema

mutual

/-- The number of records in a schema. -/
def recordCount : Schema → Nat
  | construct fields => 1 + recordCountOfFields fields
  | optional inner => recordCount inner
  | nullable inner => recordCount inner
  | array item => recordCount item
  | _ => 0

def recordCountOfFields : List (String × Schema) → Nat
  | [] => 0
  | (_, rule) :: rest => recordCount rule + recordCountOfFields rest

end

/-- The number of items for a root: one for each record, and a synonym for a root that is none. -/
def itemCount (schema : Schema) : Nat :=
  schema.recordCount + if Declarations.isRecord schema then 0 else 1

end Schema

mutual

/-- The type of a schema, and the items of the records in it. -/
inductive Declares : Schema → TypeExpr → List Item → Prop
  | string : Declares .string .string []
  | number : Declares .number .number []
  | boolean : Declares .boolean .boolean []
  | optional {inner : Schema} {type : TypeExpr} {items : List Item} (h : Declares inner type items) :
      Declares (.optional inner) (.option type) items
  | nullable {inner : Schema} {type : TypeExpr} {items : List Item} (h : Declares inner type items) :
      Declares (.nullable inner) (.option type) items
  | array {item : Schema} {type : TypeExpr} {items : List Item} (h : Declares item type items) :
      Declares (.array item) (.list type) items
  | record {fields : List (String × Schema)} {decls : List FieldDecl} {items : List Item} {name : String}
      (h : DeclaresFields fields decls items) :
      Declares (.construct fields) (.named name) (.struct name decls :: items)

/-- The declarations of fields, and the items of the records in them. -/
inductive DeclaresFields : List (String × Schema) → List FieldDecl → List Item → Prop
  | nil : DeclaresFields [] [] []
  | cons {rule : Schema} {field : FieldDecl} {rest : List (String × Schema)} {decls : List FieldDecl}
      {items more : List Item} (h : Declares rule field.type items) (hs : DeclaresFields rest decls more) :
      DeclaresFields ((field.key, rule) :: rest) (field :: decls) (items ++ more)

end

/-- The items of a root. -/
inductive DeclaresRoot : Schema → List Item → Prop
  | record {fields : List (String × Schema)} {type : TypeExpr} {items : List Item}
      (h : Declares (.construct fields) type items) : DeclaresRoot (.construct fields) items
  | synonym {schema : Schema} {name : String} {type : TypeExpr} {items : List Item}
      (hs : Declarations.isRecord schema = false) (h : Declares schema type items) :
      DeclaresRoot schema (.synonym name type :: items)

/-- Every item names only items that come after it. -/
def MentionsLater : List Item → Prop
  | [] => True
  | item :: rest => (∀ name ∈ item.mentions, ∃ later ∈ rest, later.name = name) ∧ MentionsLater rest

theorem MentionsLater.append {items more : List Item} (h : MentionsLater items) (h' : MentionsLater more) :
    MentionsLater (items ++ more) := by
  induction items with
  | nil => exact h'
  | cons item rest ih =>
    obtain ⟨hitem, hrest⟩ := h
    refine ⟨fun name hn => ?_, ih hrest⟩
    obtain ⟨later, hl, hname⟩ := hitem name hn
    exact ⟨later, List.mem_append_left _ hl, hname⟩

theorem MentionsLater.mem {items : List Item} (h : MentionsLater items) {item : Item} (hi : item ∈ items)
    {name : String} (hn : name ∈ item.mentions) : ∃ later ∈ items, later.name = name := by
  induction items with
  | nil => cases hi
  | cons first rest ih =>
    obtain ⟨hfirst, hrest⟩ := h
    have hlater : ∃ later ∈ rest, later.name = name := by
      rcases List.mem_cons.mp hi with rfl | hi
      · exact hfirst name hn
      · exact ih hrest hi
    obtain ⟨later, hl, hname⟩ := hlater
    exact ⟨later, List.mem_cons_of_mem _ hl, hname⟩

/-! ## What a schema declares -/

theorem declaresFields_fieldDecls {fields : List (String × Schema)}
    (h : ∀ field ∈ fields, ∀ wanted taken,
      Declares field.2 (typeOf wanted taken field.2).1 (typeOf wanted taken field.2).2.1)
    (owner : String) (idents taken : List String) :
    DeclaresFields fields (fieldDecls owner idents taken fields).1
      (fieldDecls owner idents taken fields).2.1 := by
  induction fields generalizing idents taken with
  | nil => exact .nil
  | cons field rest ih =>
    obtain ⟨hfield, hrest⟩ := List.forall_mem_cons.mp h
    obtain ⟨key, rule⟩ := field
    let ident := freeField (fieldIdent key) idents
    let found := typeOf (owner ++ typeIdent key) taken rule
    have hfirst : Declares rule found.1 found.2.1 := hfield (owner ++ typeIdent key) taken
    exact @DeclaresFields.cons rule ⟨ident, key, rule.admitsMissing, rule.admitsNull, found.1⟩ _ _ _ _ hfirst
      (ih hrest (ident :: idents) found.2.2)

theorem declares_typeOf (schema : Schema) (wanted : String) (taken : List String) :
    Declares schema (typeOf wanted taken schema).1 (typeOf wanted taken schema).2.1 := by
  induction schema generalizing wanted taken with
  | primitive schema hp =>
    cases schema with
    | string => exact .string
    | number => exact .number
    | boolean => exact .boolean
    | construct | optional | nullable | array => cases hp
  | construct fields ih =>
    rw [typeOf]
    exact .record (declaresFields_fieldDecls ih _ _ _)
  | array item ih => exact .array (ih _ _)
  | layer inner schema hl ih =>
    cases hl with
    | optional => exact .optional (ih _ _)
    | nullable => exact .nullable (ih _ _)

/-! ## One item for each record -/

theorem DeclaresFields.length_eq {fields : List (String × Schema)} {decls : List FieldDecl}
    {items : List Item} (hs : DeclaresFields fields decls items)
    (h : ∀ field ∈ fields, ∀ type items, Declares field.2 type items →
      items.length = field.2.recordCount) : items.length = Schema.recordCountOfFields fields := by
  induction fields generalizing decls items with
  | nil =>
    cases hs with
    | nil => rfl
  | cons field rest ih =>
    obtain ⟨hfield, hrest⟩ := List.forall_mem_cons.mp h
    cases hs with
    | cons hd hs =>
      rw [List.length_append, hfield _ _ hd, ih hs hrest, Schema.recordCountOfFields]

theorem Declares.length_eq {schema : Schema} {type : TypeExpr} {items : List Item}
    (h : Declares schema type items) : items.length = schema.recordCount := by
  induction schema generalizing type items with
  | primitive schema hp =>
    cases h with
    | string | number | boolean => rfl
    | optional | nullable | array | record => cases hp
  | construct fields ih =>
    cases h with
    | record hs =>
      have hfields := hs.length_eq fun field hf _ _ hd => ih field hf hd
      rw [List.length_cons, hfields, Schema.recordCount, Nat.add_comm]
  | array item ih =>
    cases h with
    | array h => exact ih h
  | layer inner schema hl ih =>
    cases hl with
    | optional =>
      cases h with
      | optional h => exact ih h
    | nullable =>
      cases h with
      | nullable h => exact ih h

/-- **There is one item for each record of a root**, and one more for a root that is no record. -/
theorem DeclaresRoot.length_eq {schema : Schema} {items : List Item} (h : DeclaresRoot schema items) :
    items.length = schema.itemCount := by
  cases h with
  | record h => exact h.length_eq
  | synonym hs h => rw [List.length_cons, h.length_eq, Schema.itemCount, hs]; rfl

/-! ## Items that are named -/

/-- The types of fields name items of theirs, and these only items after them. -/
theorem DeclaresFields.mentions {fields : List (String × Schema)} {decls : List FieldDecl}
    {items : List Item} (hs : DeclaresFields fields decls items)
    (h : ∀ field ∈ fields, ∀ type items, Declares field.2 type items →
      (∀ name ∈ type.names, ∃ item ∈ items, item.name = name) ∧ MentionsLater items) :
    (∀ field ∈ decls, ∀ name ∈ field.type.names, ∃ item ∈ items, item.name = name) ∧
      MentionsLater items := by
  induction fields generalizing decls items with
  | nil =>
    cases hs with
    | nil => exact ⟨by simp, trivial⟩
  | cons field rest ih =>
    obtain ⟨hfield, hrest⟩ := List.forall_mem_cons.mp h
    cases hs with
    | cons hd hs =>
      obtain ⟨hnames, hlater⟩ := hfield _ _ hd
      obtain ⟨hothers, hmore⟩ := ih hs hrest
      -- the items of a field stand before those of the fields after it, so they are among all of them
      refine ⟨List.forall_mem_cons.mpr ⟨fun name hn => ?_, fun field hf name hn => ?_⟩, hlater.append hmore⟩
      · obtain ⟨item, hi, hname⟩ := hnames name hn
        exact ⟨item, List.mem_append_left _ hi, hname⟩
      · obtain ⟨item, hi, hname⟩ := hothers field hf name hn
        exact ⟨item, List.mem_append_right _ hi, hname⟩

theorem Declares.mentions {schema : Schema} {type : TypeExpr} {items : List Item}
    (h : Declares schema type items) :
    (∀ name ∈ type.names, ∃ item ∈ items, item.name = name) ∧ MentionsLater items := by
  induction schema generalizing type items with
  | primitive schema hp =>
    cases h with
    | string | number | boolean => exact ⟨by simp [TypeExpr.names], trivial⟩
    | optional | nullable | array | record => cases hp
  | construct fields ih =>
    cases h with
    -- the item of the record comes first, and its fields mention only items after it
    | @record _ decls items name hs =>
      obtain ⟨hnames, hlater⟩ := hs.mentions fun field hf _ _ hd => ih field hf hd
      refine ⟨?_, fun other ho => ?_, hlater⟩
      · simp [TypeExpr.names, Item.name]
      · obtain ⟨field, hf, hn⟩ := List.mem_flatMap.mp ho
        exact hnames field hf other hn
  | array item ih =>
    cases h with
    | array h =>
      rw [TypeExpr.names]
      exact ih h
  | layer inner schema hl ih =>
    cases hl with
    | optional =>
      cases h with
      | optional h =>
        rw [TypeExpr.names]
        exact ih h
    | nullable =>
      cases h with
      | nullable h =>
        rw [TypeExpr.names]
        exact ih h

theorem DeclaresRoot.mentionsLater {schema : Schema} {items : List Item} (h : DeclaresRoot schema items) :
    MentionsLater items := by
  cases h with
  | record h => exact h.mentions.2
  | synonym _ h => exact h.mentions

/-! ## Files of several roots -/

namespace Declarations

/-- **A root adds the items of its records**, after a synonym unless it is a record itself. -/
theorem declare_declares (d : Declarations) (schema : Schema) (root : String) : ∃ items,
    (d.declare schema root).items = d.items ++ items ∧ DeclaresRoot schema items := by
  unfold declare
  by_cases hrecord : isRecord schema = true
  · rw [if_pos hrecord]
    cases schema with
    | construct fields => exact ⟨_, rfl, .record (declares_typeOf _ _ _)⟩
    | string | number | boolean | optional | nullable | array => cases hrecord
  · rw [if_neg hrecord]
    exact ⟨_, rfl, .synonym (Bool.not_eq_true _ ▸ hrecord) (declares_typeOf _ _ _)⟩

/-- In a file of several roots, every item names only items that come after it. -/
theorem mentionsLater_ofRoots (roots : List (Schema × String)) : MentionsLater (ofRoots roots).items := by
  induction roots using List.reverseRecOn with
  | nil => trivial
  | append_singleton roots root ih =>
    obtain ⟨new, hnew, hdeclares⟩ := (ofRoots roots).declare_declares root.1 root.2
    rw [ofRoots_concat, hnew]
    exact ih.append hdeclares.mentionsLater

end Declarations

end JsonShape
