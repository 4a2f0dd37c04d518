import JsonShape.Proofs.Projection.Held
import JsonShape.Proofs.Projection.NameClasses
import JsonShape.Proofs.Projection.UnicodeNames

/-!
# Files that compile

A file of declarations compiles only if the language admits its identifiers (`Declarations.Compiles`): they have the
form of identifiers, none of them is a reserved word, and in the normal form that the compiler takes them in, no two
items and no two fields of a record have the same.  From a file that does not compile nothing can be read, and
neither from one that declares a name which stands for something else in it (`Declarations.read`).

The identifiers that are declared differ and are no reserved words anyway: a field is kept from the keywords
(`isLegal_freeField_iff`), and an item does not begin as they do (`TypeName.isLegal_iff`).  So where all are in
normal form, the file compiles just if they have the form of identifiers (`Declarations.compiles_iff`).
-/

namespace JsonShape

/-- Whether the language admits an identifier, which may have the mark of a raw one; an underscore alone is none, and
a few words cannot be raw identifiers either. -/
def isLegal (ident : String) : Bool :=
  hasIdentifierForm (unraw ident).toList && unraw ident != "_" &&
    !(if unraw ident = ident then reservedWords else pathKeywords).contains (unraw ident)

namespace Declarations

/-- The names that stand for something else in a file of declarations. -/
def libraryNames : List String :=
  ["String", "Option", "Vec", "Serialize", "Deserialize", "Result", "Self"]

/-- The identifiers of a file, without their marks. -/
def identifiers (d : Declarations) : List String :=
  d.items.flatMap fun item => item.name :: item.fields.map fun f => unraw f.ident

/-- The compiler takes the file, by identifiers in normal form, and means by the library's names what the library
does. -/
structure Compiles (normal : String → String) (d : Declarations) : Prop where
  items : ∀ item ∈ d.items, isLegal item.name = true
  fields : ∀ item ∈ d.items, ∀ f ∈ item.fields, isLegal f.ident = true
  itemsDiffer : (d.items.map fun item => normal item.name).Nodup
  fieldsDiffer : ∀ item ∈ d.items, (item.fields.map fun f => normal (unraw f.ident)).Nodup
  library : ∀ item ∈ d.items, item.name ∉ libraryNames

instance (normal : String → String) (d : Declarations) : Decidable (d.Compiles normal) :=
  decidable_of_iff
    ((∀ item ∈ d.items, isLegal item.name = true) ∧ (∀ item ∈ d.items, ∀ f ∈ item.fields, isLegal f.ident = true) ∧
      (d.items.map fun item => normal item.name).Nodup ∧
      (∀ item ∈ d.items, (item.fields.map fun f => normal (unraw f.ident)).Nodup) ∧
      ∀ item ∈ d.items, item.name ∉ libraryNames)
    ⟨fun h => ⟨h.1, h.2.1, h.2.2.1, h.2.2.2.1, h.2.2.2.2⟩,
      fun h => ⟨h.items, h.fields, h.itemsDiffer, h.fieldsDiffer, h.library⟩⟩

/-- Reads a document at a type, in a file that compiles. -/
def read (normal : String → String) (d : Declarations) (type : TypeExpr) (document : Json) : Option Held :=
  if d.Compiles normal then d.readAt normal document type else none

end Declarations

/-! ## Fields -/

theorem isLegal_plain_iff {word : String} (hhash : '#' ∉ word.toList) (hr : word ∉ reservedWords) (hu : word ≠ "_") :
    isLegal word = true ↔ hasIdentifierForm word.toList = true := by
  rw [isLegal, unraw_eq_self hhash, if_pos rfl]
  simp [hr, hu]

/-- A keyword is not reserved as a raw identifier. -/
theorem isLegal_raw_iff {word : String} (hu : word ≠ "_") (hp : word ∉ pathKeywords) :
    isLegal (rawMark ++ word) = true ↔ hasIdentifierForm word.toList = true := by
  have hmark : word ≠ rawMark ++ word := by
    intro he
    have hlength := congrArg List.length (congrArg String.toList he)
    rw [toList_rawMark, List.length_cons, List.length_cons] at hlength
    omega
  rw [isLegal, unraw_rawMark, if_neg hmark]
  simp [hp, hu]

/-- With an underscore in it, an identifier is no keyword with or without a mark. -/
theorem FieldName.isLegal_of_underscore {name : String} (h : FieldName name) (hm : '_' ∈ name.toList)
    (hu : name ≠ "_") : isLegal name = true ↔ hasIdentifierForm (unraw name).toList = true := by
  cases h with
  | @raw word hk =>
    rw [toList_rawMark, List.mem_cons, List.mem_cons] at hm
    rcases hm with hm | hm | hm
    · exact absurd hm (by decide)
    · exact absurd hm (by decide)
    · exact absurd hm (underscore_notMem_keywords word (List.mem_append_left _ hk))
  | plain hs hk =>
    rw [unraw_eq_self hs.notMem_hash]
    exact isLegal_plain_iff hs.notMem_hash (JsonShape.notMem_reservedWords hk) hu

/-- The first word of a name begins with the small form of its first letter or number, and so with no underscore. -/
theorem exists_head_words {raw word : List Char} {others : List (List Char)} (h : words raw = word :: others) :
    ∃ d rest, word = d :: rest ∧ d ≠ '_' := by
  have hflat := flatten_words raw
  have hne : word ≠ [] := ne_nil_of_mem_words raw word (h ▸ List.mem_cons_self)
  obtain ⟨d, rest, rfl⟩ := List.exists_cons_of_ne_nil hne
  have halnum : ∀ c ∈ raw.filter isAlphanumeric, isAlphanumeric c = true := fun c hc => (List.mem_filter.mp hc).2
  rw [h, List.flatten_cons] at hflat
  generalize raw.filter isAlphanumeric = letters at hflat halnum
  cases letters with
  | nil => cases hflat
  | cons c more =>
    obtain ⟨small, tail, hlower, hclass, -⟩ := lowercase_lowersTo c
    rw [List.flatMap_cons, hlower] at hflat
    obtain ⟨rfl, -⟩ := List.cons.inj hflat
    exact ⟨d, rest, rfl, hclass.ne_underscore (ne_underscore_of_isAlphanumeric (halnum c List.mem_cons_self))⟩

theorem snakeCase_ne_underscore (raw : String) : snakeCase raw ≠ "_" := by
  intro he
  rcases snakeCase_cases raw with hfield | ⟨c, rest, hjoined, -, hsnake⟩
  · rw [hfield] at he
    exact absurd he (by decide)
  · rw [he] at hsnake
    -- an underscore is put in front of a digit only, and then it is not alone
    by_cases hdigit : c.isDigit = true
    · rw [if_pos hdigit] at hsnake
      cases hsnake
    · rw [if_neg hdigit] at hsnake
      obtain ⟨rfl, -⟩ := List.cons.inj hsnake
      cases hwords : words raw.toList with
      | nil =>
        rw [hwords] at hjoined
        cases hjoined
      | cons word others =>
        obtain ⟨d, more, rfl, hd⟩ := exists_head_words hwords
        rw [hwords, List.intercalate_cons_cons_left] at hjoined
        obtain ⟨rfl, -⟩ := List.cons.inj hjoined
        exact hd rfl

/-- What is put before or behind an underscore makes it another text. -/
theorem append_underscore_ne {front tail : String} (h : front.toList ≠ [] ∨ tail.toList ≠ []) :
    front ++ "_" ++ tail ≠ "_" := by
  intro he
  have hlength := congrArg List.length (congrArg String.toList he)
  have hone : ("_" : String).toList.length = 1 := rfl
  rw [String.toList_append, String.toList_append, List.length_append, List.length_append, hone] at hlength
  rcases h with h | h
  · have := List.length_pos_iff.mpr h
    omega
  · have := List.length_pos_iff.mpr h
    omega

/-- **All that can be wrong with the identifier of a field is its form.** -/
theorem isLegal_freeField_iff (raw : String) (taken : List String) :
    isLegal (freeField (fieldIdent raw) taken) = true ↔
      hasIdentifierForm (unraw (freeField (fieldIdent raw) taken)).toList = true := by
  have hname := fieldName_freeField raw taken
  rcases freeField_cases raw taken with he | ⟨n, he⟩
  · rw [he] at hname ⊢
    -- a reserved word that cannot be raw has an underscore behind it, a keyword is raw, and others are as they
    -- are
    rcases fieldIdent_cases raw with hi | ⟨hi, hk, hp⟩ | ⟨hi, hfree⟩
    · have hu : snakeCase raw ++ "_" ++ "" ≠ "_" := append_underscore_ne (.inl (snakeCase_ne_nil raw))
      rw [String.append_empty] at hu
      rw [hi] at hname ⊢
      exact hname.isLegal_of_underscore (by simp) hu
    · rw [hi, unraw_rawMark]
      exact isLegal_raw_iff (snakeCase_ne_underscore raw) hp
    · have hhash := (signless_snakeCase raw).notMem_hash
      rw [hi, unraw_eq_self hhash]
      exact isLegal_plain_iff hhash (notMem_reservedWords hfree) (snakeCase_ne_underscore raw)
  · -- a number comes after an underscore, and no reserved word has one
    have hdigits : (toString (n + 2)).toList ≠ [] := by
      rw [toList_toString_nat]
      exact Nat.toDigits_ne_nil
    rw [he] at hname ⊢
    exact hname.isLegal_of_underscore (by simp) (append_underscore_ne (.inr hdigits))

/-! ## Items -/

/-- The character is neither an underscore nor a small letter of ASCII. -/
def IsTypeStart (c : Char) : Prop := c.toNat ≠ 0x5F ∧ (c.toNat < 0x61 ∨ 0x7A < c.toNat)

instance (c : Char) : Decidable (IsTypeStart c) := inferInstanceAs (Decidable (_ ∧ _))

/-- Reserved words are in small letters, but for one of them. -/
theorem reservedWords_head : ∀ word ∈ reservedWords, word ≠ "Self" → ¬ IsTypeStart (word.toList.headD '_') := by
  decide +kernel

theorem severalUpper_head : ∀ entry ∈ severalUpper, ∃ code rest, entry.2 = code :: rest ∧
    IsTypeStart (Char.ofNat code) := by
  have hheads : ∀ entry ∈ severalUpper, entry.2 ≠ [] ∧ ∀ code ∈ entry.2.head?, IsTypeStart (Char.ofNat code) := by
    decide +kernel
  intro entry he
  obtain ⟨hne, hhead⟩ := hheads entry he
  obtain ⟨code, rest, hcodes⟩ := List.exists_cons_of_ne_nil hne
  exact ⟨code, rest, hcodes, hhead code (by rw [hcodes]; rfl)⟩

theorem upperShifts_valid : ∀ shift ∈ upperShifts, 0 < shift.image.first ∧
    (shift.image.last < 0x5F ∨ 0x7A < shift.image.first) ∧
      (shift.image.last < 0xD800 ∨ 0xDFFF < shift.image.first ∧ shift.image.last < 0x110000) := by
  decide +kernel

/-- Upper case begins as types do. -/
theorem exists_uppercase {c : Char} (hc : c ≠ '_') : ∃ d rest, uppercase c = d :: rest ∧ IsTypeStart d := by
  rw [uppercase]
  by_cases hascii : c.toNat < 0x80
  · have himage := forall_char_below (p := fun c => c ≠ '_' → IsTypeStart c.toUpper) (by decide) hascii
    rw [if_pos hascii]
    exact ⟨c.toUpper, [], rfl, himage hc⟩
  · rw [if_neg hascii, mapped]
    split
    · rename_i codes hfound
      obtain ⟨code, rest, hcodes, hstart⟩ := severalUpper_head _ (List.mem_of_find?_eq_some hfound)
      have hcodes : codes = code :: rest := hcodes
      exact ⟨_, _, by rw [hcodes]; rfl, hstart⟩
    · split
      · -- a shift leads to characters on one side of the small letters of ASCII
        rename_i shift hfound
        obtain ⟨hpos, hapart, hvalid⟩ := upperShifts_valid shift (List.mem_of_find?_eq_some hfound)
        have hholds : shift.span.holds c = true := by simpa using List.find?_some hfound
        obtain ⟨hfirst, hlast, -⟩ := Span.holds_iff.mp (Shift.image_holds hholds hpos hvalid)
        refine ⟨shift.apply c, [], rfl, ?_⟩
        unfold IsTypeStart
        omega
      · refine ⟨c, [], rfl, ?_⟩
        unfold IsTypeStart
        omega

/-- A name without signs that begins as types do. -/
structure TypeName (name : String) : Prop where
  signless : Signless name.toList
  head : ∃ c rest, name.toList = c :: rest ∧ IsTypeStart c

theorem TypeName.append {name more : String} (h : TypeName name) (hm : Signless more.toList) :
    TypeName (name ++ more) := by
  obtain ⟨hsigns, c, rest, hname, hc⟩ := h
  refine ⟨?_, c, rest ++ more.toList, ?_, hc⟩
  · rw [String.toList_append]
    exact hsigns.append hm
  · rw [String.toList_append, hname, List.cons_append]

theorem typeName_typeIdent (raw : String) : TypeName (typeIdent raw) := by
  refine ⟨signless_typeIdent raw, ?_⟩
  rw [typeIdent, String.toList_ofList]
  have hT : IsTypeStart 'T' := by decide
  cases hwords : words raw.toList with
  | nil => exact ⟨'T', [], rfl, hT⟩
  | cons word others =>
    obtain ⟨c, rest, rfl, hc⟩ := exists_head_words hwords
    obtain ⟨d, more, hupper, hd⟩ := exists_uppercase hc
    rw [List.flatMap_cons, capitalized, hupper, List.cons_append, List.cons_append, letterFirst]
    -- a digit in front gets the letter `T`
    by_cases hdigit : d.isDigit = true
    · rw [if_pos hdigit]
      exact ⟨'T', _, rfl, hT⟩
    · rw [if_neg hdigit]
      exact ⟨d, _, rfl, hd⟩

theorem closed_typeName : Closed TypeName fun _ => True where
  item h := h.append (.of_all (by decide))
  below h _ := h.append (signless_typeIdent _)
  numbered n h := h.append (.of_all (all_toString (fun c hc => by rw [hc, Bool.or_true]) n))

/-- **All that can be wrong with the name of an item is its form**, unless it is `Self`. -/
theorem TypeName.isLegal_iff {name : String} (h : TypeName name) (hs : name ≠ "Self") :
    isLegal name = true ↔ hasIdentifierForm name.toList = true := by
  obtain ⟨hsigns, c, rest, hname, hc⟩ := h
  refine isLegal_plain_iff hsigns.notMem_hash (fun hr => ?_) ?_
  · have hhead := reservedWords_head name hr hs
    rw [hname] at hhead
    exact hhead hc
  · rintro rfl
    obtain ⟨rfl, -⟩ := List.cons.inj hname
    exact absurd hc (by decide)

namespace Declarations

section Identifiers

variable {d : Declarations} {item : Item} (hi : item ∈ d.items)
include hi

theorem name_mem_identifiers : item.name ∈ d.identifiers :=
  List.mem_flatMap.mpr ⟨item, hi, List.mem_cons_self⟩

theorem unraw_mem_identifiers {f : FieldDecl} (hf : f ∈ item.fields) : unraw f.ident ∈ d.identifiers :=
  List.mem_flatMap.mpr ⟨item, hi, List.mem_cons_of_mem _ (List.mem_map_of_mem hf)⟩

end Identifiers

variable (roots : List (Schema × String))

theorem typeName_of_mem {item : Item} (hi : item ∈ (ofRoots roots).items) : TypeName item.name :=
  closed_typeName.ofRoots (fun root _ => ⟨typeName_typeIdent root.2, fun _ _ => trivial⟩) item hi

theorem wellNamed_of_mem {item : Item} (hi : item ∈ (ofRoots roots).items) :
    ∃ record, WellNamed record item.fields := by
  cases item with
  | struct name fields => exact (declaredBy_ofRoots roots).wellNamed hi
  | synonym name type => exact ⟨[], ⟨rfl, List.forall_mem_nil _, List.nodup_nil⟩⟩

/-- The identifier of a field is a free one for its key. -/
theorem exists_freeField_of_mem {item : Item} (hi : item ∈ (ofRoots roots).items) {f : FieldDecl}
    (hf : f ∈ item.fields) : ∃ taken, f.ident = freeField (fieldIdent f.key) taken := by
  obtain ⟨record, hnamed⟩ := wellNamed_of_mem roots hi
  exact hnamed.idents f hf

/-- **A file of roots compiles just if its identifiers have the form of identifiers**, where they are in normal form
and none of the items has a name of the library. -/
theorem compiles_iff {normal : String → String}
    (hnames : ∀ item ∈ (ofRoots roots).items, item.name ∉ libraryNames)
    (hnormal : ∀ name ∈ (ofRoots roots).identifiers, normal name = name) :
    (ofRoots roots).Compiles normal ↔
      ∀ name ∈ (ofRoots roots).identifiers, hasIdentifierForm name.toList = true := by
  -- the only reserved word that begins as types do is a name of the library
  have hitem : ∀ item ∈ (ofRoots roots).items,
      (isLegal item.name = true ↔ hasIdentifierForm item.name.toList = true) := by
    intro item hi
    refine (typeName_of_mem roots hi).isLegal_iff fun hs => hnames item hi ?_
    rw [hs]
    decide
  have hfield : ∀ item ∈ (ofRoots roots).items, ∀ f ∈ item.fields,
      (isLegal f.ident = true ↔ hasIdentifierForm (unraw f.ident).toList = true) := by
    intro item hi f hf
    obtain ⟨taken, he⟩ := exists_freeField_of_mem roots hi hf
    rw [he]
    exact isLegal_freeField_iff f.key taken
  constructor
  · intro h name hname
    obtain ⟨item, hi, hname⟩ := List.mem_flatMap.mp hname
    rcases List.mem_cons.mp hname with rfl | hname
    · exact (hitem item hi).mp (h.items item hi)
    · obtain ⟨f, hf, rfl⟩ := List.mem_map.mp hname
      exact (hfield item hi f hf).mp (h.fields item hi f hf)
  · -- names in normal form differ there as they do in the file
    intro h
    refine ⟨fun item hi => (hitem item hi).mpr (h _ (name_mem_identifiers hi)),
      fun item hi f hf => (hfield item hi f hf).mpr (h _ (unraw_mem_identifiers hi hf)), ?_, ?_, hnames⟩
    · have hsame : ((ofRoots roots).items.map fun item => normal item.name) = (ofRoots roots).items.map Item.name :=
        List.map_congr_left fun item hi => hnormal _ (name_mem_identifiers hi)
      rw [hsame]
      exact (nodup_names_ofRoots roots).nodup
    · intro item hi
      have hsame : (item.fields.map fun f => normal (unraw f.ident)) = item.fields.map fun f => unraw f.ident :=
        List.map_congr_left fun f hf => hnormal _ (unraw_mem_identifiers hi hf)
      obtain ⟨record, hnamed⟩ := wellNamed_of_mem roots hi
      rw [hsame]
      exact hnamed.nodup_unraw

end Declarations

end JsonShape
