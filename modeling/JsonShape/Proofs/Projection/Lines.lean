import JsonShape.Proofs.Projection.NameClasses
import JsonShape.Proofs.Text.Unbroken

/-!
# Lines of a file

Names and identifiers have no line breaks (`declared_unbroken`), so every item is written in complete lines.
None of these begins with a slash (`Lines`), and so the function that reads a present key, which has a comment
above it, stands in a file only if it was put there (`presentReader_infix_iff`).
-/

namespace JsonShape

/-- Complete lines, of which none begins with a slash. -/
inductive Lines : List Char → Prop
  | nil : Lines []
  | line {line rest : List Char} (hb : Unbroken line) (hs : line.head? ≠ some '/') (h : Lines rest) :
      Lines (line ++ '\n' :: rest)

namespace Lines

theorem single {line : List Char} (hb : Unbroken line) (hs : line.head? ≠ some '/') :
    Lines (line ++ ['\n']) := .line hb hs .nil

theorem append {text more : List Char} (h : Lines text) (h' : Lines more) : Lines (text ++ more) := by
  induction h with
  | nil => exact h'
  | line hb hs _ ih =>
    rw [List.append_assoc, List.cons_append]
    exact .line hb hs ih

theorem flatMap {α : Type} {items : List α} {write : α → List Char} (h : ∀ item ∈ items, Lines (write item)) :
    Lines (items.flatMap write) := by
  induction items with
  | nil => exact .nil
  | cons item rest ih =>
    obtain ⟨hitem, hrest⟩ := List.forall_mem_cons.mp h
    exact hitem.append (ih hrest)

theorem head?_ne {text : List Char} (h : Lines text) : text.head? ≠ some '/' := by
  cases h with
  | nil => simp
  | @line line rest _ hs _ =>
    cases line with
    | nil => simp
    | cons c others => exact hs

/-- No line break is followed by a slash. -/
theorem ne_break_slash {text : List Char} (h : Lines text) (before after : List Char) :
    text ≠ before ++ '\n' :: '/' :: after := by
  induction h generalizing before with
  | nil => simp
  | @line line rest hb _ hrest ih =>
    intro he
    -- the break is in front of the first line break, at it, or behind it
    rcases List.append_eq_append_iff.mp he with ⟨gap, rfl, hgap⟩ | ⟨gap, rfl, hgap⟩
    · cases gap with
      | nil =>
        obtain ⟨-, rfl⟩ := List.cons.inj hgap
        exact hrest.head?_ne rfl
      | cons c others =>
        obtain ⟨-, rfl⟩ := List.cons.inj hgap
        exact ih others rfl
    · cases gap with
      | nil =>
        obtain ⟨-, rfl⟩ := List.cons.inj hgap
        exact hrest.head?_ne rfl
      | cons c others =>
        obtain ⟨rfl, -⟩ := List.cons.inj hgap
        exact hb (List.mem_append_right _ List.mem_cons_self)

end Lines

/-! ## Names -/

/-- The name of the item and the identifiers of its fields have no line breaks. -/
def Item.NamesUnbroken (item : Item) : Prop :=
  Unbroken item.name.toList ∧ ∀ field ∈ item.fields, Unbroken field.ident.toList

theorem closed_unbroken : Closed (fun name => Unbroken name.toList) fun _ => True where
  item h := by
    rw [String.toList_append]
    exact h.append (by decide)
  below h _ := by
    rw [String.toList_append]
    exact h.append (signless_typeIdent _).unbroken
  numbered n h := by
    rw [String.toList_append]
    exact h.append (unbroken_toString n)

/-- **The names in a file of several roots have no line breaks.** -/
theorem Declarations.declared_unbroken (roots : List (Schema × String)) :
    ∀ item ∈ (ofRoots roots).items, item.NamesUnbroken := by
  intro item hi
  have hroots : ∀ root ∈ roots, Unbroken (typeIdent root.2).toList ∧ ∀ key ∈ root.1.declaredNames, True :=
    fun root _ => ⟨(signless_typeIdent root.2).unbroken, fun _ _ => trivial⟩
  refine ⟨closed_unbroken.ofRoots hroots item hi, fun field hf => ?_⟩
  cases item with
  | synonym name target => cases hf
  | struct name fields =>
    obtain ⟨record, hfields⟩ := (declaredBy_ofRoots roots).wellNamed hi
    exact (hfields.fieldName field hf).notMem (by decide) (by decide)

/-! ## Texts -/

theorem unbroken_typeText {type : TypeExpr} (h : ∀ name ∈ type.names, Unbroken name.toList) :
    Unbroken type.text.toList := by
  induction type with
  | string | number | boolean => decide
  | option inner ih =>
    rw [TypeExpr.text, String.toList_append, String.toList_append]
    exact (Unbroken.append (by decide) (ih h)).append (by decide)
  | list item ih =>
    rw [TypeExpr.text, String.toList_append, String.toList_append]
    exact (Unbroken.append (by decide) (ih h)).append (by decide)
  | named name => exact h name List.mem_cons_self

namespace FieldDecl

theorem lines_attributeLine {attributes : String} (h : Unbroken attributes.toList) :
    Lines (attributeLine attributes).toList := by
  have hline : (attributeLine attributes).toList =
      ("    #[serde(".toList ++ attributes.toList ++ ")]".toList) ++ ['\n'] := by
    simp [attributeLine]
  rw [hline]
  exact .single ((Unbroken.append (by decide) h).append (by decide)) (by simp)

theorem unbroken_attributes (f : FieldDecl) :
    Unbroken (String.intercalate ", " f.attributes).toList := by
  obtain ⟨ident, key, mayMiss, mayBeNull, type⟩ := f
  cases mayMiss with
  | true => cases mayBeNull <;> simp only [attributes] <;> decide
  | false => cases mayBeNull <;> simp only [attributes] <;> decide

theorem lines_text {f : FieldDecl} (hi : Unbroken f.ident.toList)
    (ht : ∀ name ∈ f.type.names, Unbroken name.toList) : Lines f.text.toList := by
  have hrename : Lines (if f.isRenamed then attributeLine ("rename = " ++ literal f.key) else "").toList := by
    by_cases hr : f.isRenamed = true
    · rw [if_pos hr]
      refine lines_attributeLine ?_
      rw [String.toList_append]
      exact Unbroken.append (by decide) (unbroken_literal f.key)
    · rw [if_neg hr]
      exact .nil
  have hattributes : Lines (if f.attributes.isEmpty then "" else
      attributeLine (String.intercalate ", " f.attributes)).toList := by
    by_cases he : f.attributes.isEmpty = true
    · rw [if_pos he]
      exact .nil
    · rw [if_neg he]
      exact lines_attributeLine f.unbroken_attributes
  have hfield : Lines (("    pub ".toList ++ f.ident.toList ++ ": ".toList ++ f.type.text.toList ++
      [',']) ++ ['\n']) := by
    refine .single ?_ (by simp)
    have hname := (Unbroken.append (by decide) hi : Unbroken ("    pub ".toList ++ f.ident.toList))
    exact ((hname.append (by decide)).append (unbroken_typeText ht)).append (by decide)
  have hall := (hrename.append hattributes).append hfield
  simpa [text] using hall

end FieldDecl

theorem Item.lines_text {item : Item} (h : item.NamesUnbroken)
    (hm : ∀ name ∈ item.mentions, Unbroken name.toList) : Lines item.text.toList := by
  obtain ⟨hname, hidents⟩ := h
  cases item with
  | struct name fields =>
    have hhead : Lines (("pub struct ".toList ++ name.toList ++ [' ', '\x7b']) ++ ['\n']) :=
      .single ((Unbroken.append (by decide) hname).append (by decide)) (by simp)
    have hderived : Lines derivedTraits.toList :=
      (Lines.single (by decide) (by decide) : Lines (derivedTraits.toList.dropLast ++ ['\n']))
    have hfields : Lines (fields.flatMap fun field => field.text.toList) := by
      refine .flatMap fun field hf => FieldDecl.lines_text (hidents field hf) fun name hn => ?_
      exact hm name (List.mem_flatMap.mpr ⟨field, hf, hn⟩)
    have hclose : Lines (['\x7d'] ++ ['\n']) := .single (by decide) (by simp)
    have hall := ((hderived.append hhead).append hfields).append hclose
    simpa [text, List.flatMap_map] using hall
  | synonym name type =>
    have hline : Lines (("pub type ".toList ++ name.toList ++ " = ".toList ++ type.text.toList ++ [';']) ++
        ['\n']) := by
      refine .single ?_ (by simp)
      have hleft := ((Unbroken.append (by decide) hname).append (by decide) :
        Unbroken ("pub type ".toList ++ name.toList ++ " = ".toList))
      exact (hleft.append (unbroken_typeText hm)).append (by decide)
    simpa [text] using hline

/-! ## The function that reads a present key -/

/-- A field that has to tell a missing key from `null` is read by that function, and no other field is. -/
theorem FieldDecl.needsPresent_iff (f : FieldDecl) :
    f.needsPresent = true ↔ "deserialize_with = \"deserialize_present\"" ∈ f.attributes := by
  obtain ⟨ident, key, mayMiss, mayBeNull, type⟩ := f
  cases mayMiss with
  | true => cases mayBeNull <;> simp [needsPresent, attributes]
  | false => cases mayBeNull <;> simp [needsPresent, attributes]

namespace Declarations

theorem needsPresent_iff (d : Declarations) : d.needsPresent = true ↔
    ∃ item ∈ d.items, ∃ field ∈ item.fields,
      "deserialize_with = \"deserialize_present\"" ∈ field.attributes := by
  simp only [needsPresent, List.any_eq_true, FieldDecl.needsPresent_iff]

/-- The items of a file are written in complete lines. -/
theorem lines_items (roots : List (Schema × String)) :
    Lines (((ofRoots roots).items.map fun item => "\n" ++ item.text).flatMap String.toList) := by
  rw [List.flatMap_map]
  refine .flatMap fun item hi => ?_
  have hmentions : ∀ name ∈ item.mentions, Unbroken name.toList := by
    intro name hn
    obtain ⟨later, hl, rfl⟩ := (mentionsLater_ofRoots roots).mem hi hn
    exact (declared_unbroken roots later hl).1
  have hitem := Item.lines_text (declared_unbroken roots item hi) hmentions
  rw [String.toList_append]
  exact (Lines.single .nil (by simp)).append hitem

/-- **The function that reads a present key stands in a file just if a field is read by it.** -/
theorem presentReader_infix_iff (roots : List (Schema × String)) :
    presentReader.toList <:+: (ofRoots roots).text.toList ↔ ∃ item ∈ (ofRoots roots).items,
      ∃ field ∈ item.fields, "deserialize_with = \"deserialize_present\"" ∈ field.attributes := by
  rw [← needsPresent_iff]
  constructor
  · rintro ⟨before, after, hinfix⟩
    -- without the function, all is written in lines that do not begin with a slash
    by_contra hn
    have hheading : Lines heading.toList :=
      (Lines.single (by decide) (by decide) : Lines (heading.toList.dropLast ++ ['\n']))
    have htext : (ofRoots roots).text.toList = heading.toList ++
        ((ofRoots roots).items.map fun item => "\n" ++ item.text).flatMap String.toList := by
      rw [text, if_neg hn]
      simp
    have hlines := hheading.append (lines_items roots)
    obtain ⟨rest, hreader⟩ : ∃ rest, presentReader.toList = '\n' :: '/' :: rest := by
      delta presentReader
      simp only [String.toList_append]
      exact ⟨_, rfl⟩
    refine hlines.ne_break_slash before (rest ++ after) ?_
    rw [← htext, ← hinfix, hreader]
    simp
  · intro hn
    refine ⟨heading.toList, (String.join ((ofRoots roots).items.map fun item => "\n" ++ item.text)).toList, ?_⟩
    rw [text, if_pos hn, String.toList_append, String.toList_append]

end Declarations

end JsonShape
