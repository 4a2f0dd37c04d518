import JsonShape.Proofs.Projection.Compiled
import JsonShape.Proofs.Projection.WrittenFields

/-!
# Items in the text of a file

A line of a file says more than how a field is named: `Clause.of` tells the names of records and synonyms, types, and
what else is put in front of a field, attribute by attribute.  Types are read piece by piece between the opening
brackets (`TypeExpr.ofPieces`).

So the text of a file tells its items, with the types of the fields and all their attributes
(`Declarations.writtenItems_text`), unless one of them is named as the type of texts is; and no two files have the
same text that have other items (`Declarations.items_eq_of_text_eq`).
-/

namespace JsonShape

/-! ## Types -/

namespace TypeExpr

/-- The type that a word stands for. -/
def ofWord (word : String) : TypeExpr :=
  if word = "String" then string else if word = "f64" then number else if word = "bool" then boolean else named word

/-- The type with an argument in brackets. -/
def ofArgument (outer : List Char) (inner : TypeExpr) : Option TypeExpr :=
  if outer = "Option".toList then some (option inner) else if outer = "Vec".toList then some (list inner) else none

/-- The type that the pieces of a text between opening brackets stand for, and the text behind it. -/
def ofPieces : List (List Char) → Option (TypeExpr × List Char)
  | [] => none
  | [piece] =>
    some (ofWord (String.ofList (piece.takeWhile fun c => ¬ IsSign c)), piece.dropWhile fun c => ¬ IsSign c)
  | outer :: rest =>
    match ofPieces rest with
    | some (inner, '>' :: behind) => (ofArgument outer inner).map fun type => (type, behind)
    | _ => none

/-- The type in front of a text. -/
def before (behind text : List Char) : Option TypeExpr :=
  match ofPieces (text.splitOn '<') with
  | some (type, found) => if found = behind then some type else none
  | none => none

theorem isSign_head {c : Char} (h : IsSign c) (more : List Char) : ∀ x ∈ (c :: more).head?, IsSign x := by
  rintro x ⟨⟩
  exact h

/-- The names in the type are words that stand for nothing else. -/
def Tells (type : TypeExpr) : Prop :=
  ∀ name ∈ type.names, Signless name.toList ∧ ofWord name = named name

theorem ofPieces_cons {rest : List (List Char)} {inner : TypeExpr} {behind : List Char}
    (h : ofPieces rest = some (inner, '>' :: behind)) (outer : List Char) :
    ofPieces (outer :: rest) = (ofArgument outer inner).map fun type => (type, behind) := by
  cases rest with
  | nil => cases h
  | cons piece others =>
    rw [ofPieces, h]
    · rfl
    · exact List.cons_ne_nil piece others

theorem ofPieces_word {word : List Char} (hw : Signless word) {behind : List Char} (hangle : '<' ∉ behind)
    (hsign : ∀ c ∈ behind.head?, IsSign c) :
    ofPieces ((word ++ behind).splitOn '<') = some (ofWord (String.ofList word), behind) := by
  have hplain : '<' ∉ word ++ behind := by
    rw [List.mem_append]
    exact fun hm => hm.elim (hw '<' (by decide)) hangle
  have hword : ∀ c ∈ word, decide (¬ IsSign c) = true := fun c hc => decide_eq_true fun hs => hw c hs hc
  rw [List.splitOn_eq_singleton hplain, ofPieces, List.takeWhile_append_of_pos hword,
    List.dropWhile_append_of_pos hword]
  -- the word ends at the first sign
  cases behind with
  | nil => simp
  | cons c others =>
    have hc : IsSign c := hsign c rfl
    simp [hc]

/-- A type in brackets. -/
theorem ofPieces_bracketed {outer : List Char} (ho : '<' ∉ outer) {inner type : TypeExpr}
    (htype : ofArgument outer inner = some type) {text behind : List Char}
    (h : ofPieces ((text ++ '>' :: behind).splitOn '<') = some (inner, '>' :: behind)) :
    ofPieces ((outer ++ '<' :: (text ++ '>' :: behind)).splitOn '<') = some (type, behind) := by
  rw [List.splitOn_append_cons_self, List.splitOn_eq_singleton ho, List.singleton_append, ofPieces_cons h, htype]
  rfl

/-- **A type reads back**, whatever sign comes behind it. -/
theorem ofPieces_text {type : TypeExpr} (h : type.Tells) {behind : List Char} (hangle : '<' ∉ behind)
    (hsign : ∀ c ∈ behind.head?, IsSign c) :
    ofPieces ((type.text.toList ++ behind).splitOn '<') = some (type, behind) := by
  -- a bracket that is closed stands before what comes behind the type
  induction type generalizing behind with
  | string => exact ofPieces_word (show Signless "String".toList from .of_all (by decide)) hangle hsign
  | number => exact ofPieces_word (show Signless "f64".toList from .of_all (by decide)) hangle hsign
  | boolean => exact ofPieces_word (show Signless "bool".toList from .of_all (by decide)) hangle hsign
  | named name =>
    obtain ⟨hname, hword⟩ := h name List.mem_cons_self
    rw [text, ofPieces_word hname hangle hsign, String.ofList_toList, hword]
  | option inner ih =>
    have hinner : '<' ∉ '>' :: behind := List.not_mem_cons_of_ne_of_not_mem (by decide) hangle
    have htext : (option inner).text.toList ++ behind =
        "Option".toList ++ '<' :: (inner.text.toList ++ '>' :: behind) := by
      simp [text]
    rw [htext]
    exact ofPieces_bracketed (by decide) rfl (ih h hinner (isSign_head (by decide) behind))
  | list item ih =>
    have hinner : '<' ∉ '>' :: behind := List.not_mem_cons_of_ne_of_not_mem (by decide) hangle
    have htext : (list item).text.toList ++ behind =
        "Vec".toList ++ '<' :: (item.text.toList ++ '>' :: behind) := by
      simp [text]
    rw [htext]
    exact ofPieces_bracketed (by decide) rfl (ih h hinner (isSign_head (by decide) behind))

theorem before_text {type : TypeExpr} (h : type.Tells) {behind : List Char} (hangle : '<' ∉ behind)
    (hsign : ∀ c ∈ behind.head?, IsSign c) : before behind (type.text.toList ++ behind) = some type := by
  rw [before, ofPieces_text h hangle hsign]
  exact if_pos rfl

end TypeExpr

/-! ## Lines -/

/-- A field as it is written, with its attributes but for the name that it has in documents. -/
structure WrittenMember extends WrittenField where
  attributes : List String
  type : TypeExpr
deriving DecidableEq

/-- An item as it is written. -/
inductive WrittenItem where
  | struct (name : String) (members : List WrittenMember)
  | synonym (name : String) (type : TypeExpr)
deriving DecidableEq

/-- What a line says about an item. -/
inductive Clause where
  | opening (name : String)
  | synonym (name : String) (type : TypeExpr)
  | field (ident : String) (type : TypeExpr)
  | rename (wire : String)
  | attributes (list : List String)
  | other
deriving DecidableEq

/-- The name and the type in a line, between a beginning, a mark and an end. -/
def typed (start : String) (mark : Char) (more behind line : List Char) : Option (String × TypeExpr) := do
  let rest ← line.dropPrefix? start.toList
  let text ← (rest.dropWhile fun c => c ≠ mark).dropPrefix? (mark :: more)
  let type ← TypeExpr.before behind text
  return (String.ofList (rest.takeWhile fun c => c ≠ mark), type)

/-- The attributes in a line. -/
def attributesIn (line : List Char) : Option (List String) := do
  let rest ← line.dropPrefix? "    #[serde(".toList
  let inner ← rest.dropSuffix? ")]".toList
  return (inner.splitOn ',').map fun part => String.ofList (part.dropWhile fun c => c = ' ')

def Clause.of (line : List Char) : Clause :=
  match Line.of line with
  | .opening => .opening (String.ofList ((line.drop "pub struct ".length).takeWhile fun c => c ≠ ' '))
  | .rename wire => .rename wire
  | .field _ => (typed "    pub " ':' [' '] [','] line).elim .other fun found => .field found.1 found.2
  | .other =>
    match typed "pub type " ' ' ['=', ' '] [';'] line with
    | some (name, type) => .synonym name type
    | none => (attributesIn line).elim .other .attributes

/-- The items in a text, and before them fields of a record that is opened further up. -/
structure WrittenFile where
  members : List WrittenMember
  items : List WrittenItem

namespace WrittenFile

/-- What is written from a line on, given what is written after it. -/
def place : Clause → WrittenFile → WrittenFile
  | .opening name, ⟨members, items⟩ => ⟨[], .struct name members :: items⟩
  | .synonym name type, ⟨members, items⟩ => ⟨members, .synonym name type :: items⟩
  | .field ident type, ⟨members, items⟩ => ⟨⟨⟨ident, unraw ident⟩, [], type⟩ :: members, items⟩
  | .rename wire, ⟨member :: members, items⟩ => ⟨{ member with wire } :: members, items⟩
  | .attributes list, ⟨member :: members, items⟩ => ⟨{ member with attributes := list } :: members, items⟩
  | _, found => found

/-- The reader of the items. -/
def reader : LineReader WrittenFile := ⟨⟨[], []⟩, fun line => place (Clause.of line)⟩

end WrittenFile

/-- The items in a text. -/
def writtenItems (text : String) : List WrittenItem := (WrittenFile.reader.read text.toList).items

theorem typed_line (start : String) {name : String} {mark : Char} (hmark : mark ∉ name.toList) (more : List Char)
    {type : TypeExpr} (ht : type.Tells) {behind : List Char} (hangle : '<' ∉ behind)
    (hsign : ∀ c ∈ behind.head?, IsSign c) :
    typed start mark more behind
        (start.toList ++ (name.toList ++ mark :: (more ++ (type.text.toList ++ behind)))) = some (name, type) := by
  have hname : ∀ c ∈ name.toList, decide (c ≠ mark) = true :=
    fun c hc => decide_eq_true (ne_of_mem_of_not_mem hc hmark)
  have htake (text : List Char) : (name.toList ++ mark :: text).takeWhile (fun c => c ≠ mark) = name.toList := by
    rw [List.takeWhile_append_of_pos hname]
    simp
  have hdrop (text : List Char) : (name.toList ++ mark :: text).dropWhile (fun c => c ≠ mark) = mark :: text := by
    rw [List.dropWhile_append_of_pos hname]
    simp
  have htype : (mark :: (more ++ (type.text.toList ++ behind))).dropPrefix? (mark :: more) =
      some (type.text.toList ++ behind) :=
    List.dropPrefix?_append_of_beq _ (beq_self_eq_true (mark :: more))
  -- the mark is not in the name, so the name ends at the first of them
  rw [typed, List.dropPrefix?_append_of_beq _ (beq_self_eq_true _)]
  simp only [Option.bind_eq_bind, Option.bind_some, htake, hdrop, htype, TypeExpr.before_text ht hangle hsign,
    String.ofList_toList]
  rfl

namespace Clause

theorem of_openingLine {name : String} (hn : Signless name.toList) :
    Clause.of (Item.openingLine name) = .opening name := by
  have hname : ∀ c ∈ name.toList, decide (c ≠ ' ') = true :=
    fun c hc => decide_eq_true (ne_of_mem_of_not_mem hc (hn ' ' (by decide)))
  have hdrop : (Item.openingLine name).drop "pub struct ".length = name.toList ++ [' ', '\x7b'] := rfl
  rw [Clause.of, Item.lineOf_openingLine]
  simp only [hdrop]
  rw [List.takeWhile_append_of_pos hname]
  simp

theorem of_field {ident : String} (hi : ':' ∉ ident.toList) {type : TypeExpr} (ht : type.Tells) :
    Clause.of ("    pub ".toList ++ (ident.toList ++ ':' :: ' ' :: (type.text.toList ++ [',']))) =
      .field ident type := by
  have hend := TypeExpr.isSign_head (by decide : IsSign ',') []
  have htyped := typed_line "    pub " hi [' '] ht (by decide) hend
  rw [List.singleton_append] at htyped
  rw [Clause.of, Written.lineOf_field hi]
  simp only
  rw [htyped]
  rfl

theorem of_renameLine (wire : String) : Clause.of (FieldDecl.renameLine wire) = .rename wire := by
  have hline : Line.of (FieldDecl.renameLine wire) = .rename wire := Written.lineOf_rename wire
  rw [Clause.of, hline]

theorem of_synonymLine {name : String} (hn : Signless name.toList) {type : TypeExpr} (ht : type.Tells) :
    Clause.of (Item.synonymLine name type) = .synonym name type := by
  have hend := TypeExpr.isSign_head (by decide : IsSign ';') []
  have htyped := typed_line "pub type " (hn ' ' (by decide)) ['=', ' '] ht (by decide) hend
  have hline : Item.synonymLine name type =
      "pub type ".toList ++ (name.toList ++ ' ' :: (['=', ' '] ++ (type.text.toList ++ [';']))) := rfl
  rw [Clause.of, Item.lineOf_synonymLine, hline]
  simp only
  rw [htyped]

/-- The list of the attributes of a field. -/
theorem of_attributes {f : FieldDecl} (h : ¬ f.attributes.isEmpty = true) :
    Clause.of ("    #[serde(".toList ++ (String.intercalate ", " f.attributes).toList ++ ")]".toList) =
      .attributes f.attributes := by
  rw [FieldDecl.attributes] at h ⊢
  generalize f.mayMiss = mayMiss, f.mayBeNull = mayBeNull at h
  cases mayMiss with
  | true => cases mayBeNull <;> decide +kernel
  | false =>
    cases mayBeNull with
    | true => decide +kernel
    | false => exact absurd rfl h

end Clause

/-! ## Fields -/

namespace WrittenFile

theorem read_line {line : List Char} (hb : Unbroken line) (rest : List Char) :
    reader.read (line ++ '\n' :: rest) = place (Clause.of line) (reader.read rest) :=
  reader.read_line hb rest

theorem take_other {line : List Char} (h : Clause.of line = .other) (found : WrittenFile) :
    reader.take line found = found := by
  show place (Clause.of line) found = found
  rw [h]
  rfl

theorem skips_lines {lines : List Char} (h : ∀ line ∈ lines.splitOn '\n', Clause.of line = .other) :
    reader.Skips (lines ++ ['\n']) :=
  LineReader.skips_lines fun line hl => take_other (h line hl)

theorem skips_text {text : String} (hlast : text.toList.getLast? = some '\n')
    (h : ∀ line ∈ text.toList.dropLast.splitOn '\n', Clause.of line = .other) : reader.Skips text.toList :=
  LineReader.skips_text hlast fun line hl => take_other (h line hl)

end WrittenFile

open WrittenFile

/-- The field as it is written. -/
def FieldDecl.member (f : FieldDecl) : WrittenMember := ⟨f.written, f.attributes, f.type⟩

namespace FieldDecl

theorem read_ident {ident : String} (hi : FieldName ident) {type : TypeExpr} (ht : type.Tells)
    (hb : Unbroken type.text.toList) (rest : List Char) :
    reader.read ("    pub ".toList ++ (ident.toList ++ ':' :: ' ' :: (type.text.toList ++ [','])) ++ '\n' :: rest) =
      ⟨⟨⟨ident, unraw ident⟩, [], type⟩ :: (reader.read rest).members, (reader.read rest).items⟩ := by
  have hcolon : ':' ∉ ident.toList := hi.notMem (by decide) (by decide)
  have hnewline : Unbroken ident.toList := hi.notMem (by decide) (by decide)
  have htype : Unbroken (' ' :: (type.text.toList ++ [','])) := .cons (by decide) (hb.append (by decide))
  have hline : Unbroken ("    pub ".toList ++ (ident.toList ++ ':' :: ' ' :: (type.text.toList ++ [',']))) :=
    Unbroken.append (by decide) (hnewline.append (.cons (by decide) htype))
  rw [read_line hline, Clause.of_field hcolon ht]
  rfl

/-- The attributes of a field are put on what is read after them. -/
theorem read_attributes (f : FieldDecl) {rest : List Char} {field : WrittenField} {type : TypeExpr}
    {found : WrittenFile} (h : reader.read rest = ⟨⟨field, [], type⟩ :: found.members, found.items⟩) :
    reader.read ((if f.attributes.isEmpty then "" else
        attributeLine (String.intercalate ", " f.attributes)).toList ++ rest) =
      ⟨⟨field, f.attributes, type⟩ :: found.members, found.items⟩ := by
  by_cases he : f.attributes.isEmpty = true
  · have hnone : f.attributes = [] := List.isEmpty_iff.mp he
    rw [if_pos he, hnone]
    exact h
  · have hline : Unbroken ("    #[serde(".toList ++ (String.intercalate ", " f.attributes).toList ++ ")]".toList) :=
      (Unbroken.append (by decide) f.unbroken_attributes).append (by decide)
    have htext : (attributeLine (String.intercalate ", " f.attributes)).toList ++ rest =
        "    #[serde(".toList ++ (String.intercalate ", " f.attributes).toList ++ ")]".toList ++ '\n' :: rest := by
      simp [attributeLine]
    rw [if_neg he, htext, read_line hline, Clause.of_attributes he, h]
    rfl

/-- **A field reads back** with its attributes and its type. -/
theorem read_text {f : FieldDecl} (hi : FieldName f.ident) (ht : f.type.Tells) (hb : Unbroken f.type.text.toList)
    (rest : List Char) :
    reader.read (f.text.toList ++ rest) = ⟨f.member :: (reader.read rest).members, (reader.read rest).items⟩ := by
  have hread := f.read_attributes (read_ident hi ht hb rest)
  rw [toList_text]
  by_cases hr : f.isRenamed = true
  · rw [if_pos hr, toList_rename, read_line (unbroken_renameLine f.key), Clause.of_renameLine, hread]
    rfl
  · have hkey : unraw f.ident = f.key := by
      rw [isRenamed, hi.unmarked_eq] at hr
      simpa using hr
    rw [if_neg hr, String.toList_empty, List.nil_append, hread, hkey]
    rfl

end FieldDecl

/-! ## Items -/

namespace Item

/-- The item as it is written. -/
def written : Item → WrittenItem
  | struct name fields => .struct name (fields.map FieldDecl.member)
  | synonym name type => .synonym name type

/-- What can be read of an item: its name and those of its fields, and its types. -/
structure Readable (item : Item) : Prop extends item.Legible where
  signless : Signless item.name.toList
  tells : ∀ name ∈ item.mentions, Signless name.toList ∧ TypeExpr.ofWord name = .named name

theorem read_fields {fields : List FieldDecl}
    (h : ∀ field ∈ fields, FieldName field.ident ∧ field.type.Tells ∧ Unbroken field.type.text.toList)
    (rest : List Char) :
    reader.read (fields.flatMap (fun field => field.text.toList) ++ rest) =
      ⟨fields.map FieldDecl.member ++ (reader.read rest).members, (reader.read rest).items⟩ := by
  induction fields with
  | nil => rfl
  | cons field others ih =>
    obtain ⟨⟨hi, ht, hb⟩, hothers⟩ := List.forall_mem_cons.mp h
    rw [List.flatMap_cons, List.append_assoc, field.read_text hi ht hb, ih hothers]
    rfl

/-- What is found in a text that begins with an item and has no fields after it. -/
theorem read_text {item : Item} (h : item.Readable) {rest : List Char} (hr : (reader.read rest).members = []) :
    reader.read (item.text.toList ++ rest) = ⟨[], item.written :: (reader.read rest).items⟩ := by
  cases item with
  | struct name fields =>
    have hname : Signless name.toList := h.signless
    have hfields : ∀ field ∈ fields,
        FieldName field.ident ∧ field.type.Tells ∧ Unbroken field.type.text.toList := by
      intro field hf
      have hmentions : ∀ word ∈ field.type.names, word ∈ (struct name fields).mentions :=
        fun word hw => List.mem_flatMap.mpr ⟨field, hf, hw⟩
      refine ⟨h.idents field hf, fun word hw => h.tells word (hmentions word hw), ?_⟩
      exact unbroken_typeText fun word hw => h.mentions word (hmentions word hw)
    have hderived : reader.Skips derivedTraits.toList := skips_text (by decide) (by decide +kernel)
    have hclose : reader.Skips (['\x7d'] ++ ['\n']) := skips_lines (by decide +kernel)
    rw [toList_text_struct, hderived, read_line (unbroken_openingLine hname.unbroken), Clause.of_openingLine hname,
      read_fields hfields, hclose, hr, List.append_nil]
    rfl
  | synonym name type =>
    have hname : Signless name.toList := h.signless
    have hline := unbroken_synonymLine hname.unbroken (unbroken_typeText h.mentions)
    rw [toList_text_synonym, read_line hline, Clause.of_synonymLine hname h.tells, ← hr]
    rfl

theorem read_items {items : List Item} (h : ∀ item ∈ items, item.Readable) :
    reader.read (items.flatMap fun item => '\n' :: item.text.toList) = ⟨[], items.map written⟩ := by
  induction items with
  | nil => rfl
  | cons item rest ih =>
    obtain ⟨hitem, hrest⟩ := List.forall_mem_cons.mp h
    have hrest := ih hrest
    have hblank : reader.Skips "\n".toList := skips_text (by decide) (by decide +kernel)
    have hbreak : "\n".toList = ['\n'] := by decide
    rw [List.flatMap_cons, List.cons_append, ← List.singleton_append, ← hbreak, hblank,
      item.read_text hitem (by rw [hrest]), hrest]
    rfl

end Item

/-! ## Files -/

namespace Declarations

variable {roots : List (Schema × String)}

/-- The name of an item is not that of another type, unless it is that of the type of texts. -/
theorem ofWord_of_typeName {name : String} (h : TypeName name) (hs : name ≠ "String") :
    TypeExpr.ofWord name = .named name := by
  obtain ⟨-, c, rest, hname, hc⟩ := h
  have hne : ∀ word ∈ ["f64", "bool"], name ≠ word := by
    rintro word hw rfl
    have hhead : ∀ word ∈ ["f64", "bool"], ¬ IsTypeStart (word.toList.headD '_') := by decide
    have hstart := hhead _ hw
    rw [hname] at hstart
    exact hstart hc
  rw [TypeExpr.ofWord, if_neg hs, if_neg (hne _ (by simp)), if_neg (hne _ (by simp))]

theorem readable_ofRoots (hnames : ∀ item ∈ (ofRoots roots).items, item.name ≠ "String") :
    ∀ item ∈ (ofRoots roots).items, item.Readable := by
  intro item hi
  -- a type names items that come later, so their names are of the same class
  refine ⟨legible_ofRoots roots item hi, (typeName_of_mem roots hi).signless, fun name hn => ?_⟩
  obtain ⟨later, hl, rfl⟩ := (mentionsLater_ofRoots roots).mem hi hn
  have hname := typeName_of_mem roots hl
  exact ⟨hname.signless, ofWord_of_typeName hname (hnames later hl)⟩

theorem skips_presentReader : reader.Skips presentReader.toList := by
  delta presentReader
  simp only [String.toList_append]
  iterate 7 refine LineReader.Skips.append ?_ (skips_text (by decide) (by decide +kernel))
  exact skips_text (by decide) (by decide +kernel)

/-- **The text of a file tells its items**: the fields of records with their keys, their types and all their attributes,
and the types of synonyms. -/
theorem writtenItems_text (hnames : ∀ item ∈ (ofRoots roots).items, item.name ≠ "String") :
    writtenItems (ofRoots roots).text = (ofRoots roots).items.map Item.written := by
  have hheading : reader.Skips heading.toList := skips_text (by decide) (by decide +kernel)
  have hreader : reader.Skips (if (ofRoots roots).needsPresent then presentReader else "").toList := by
    by_cases hn : (ofRoots roots).needsPresent = true
    · rw [if_pos hn]
      exact skips_presentReader
    · rw [if_neg hn]
      exact .nil
  rw [writtenItems, toList_text, (hheading.append hreader) _, Item.read_items (readable_ofRoots hnames)]

/-- A root that is no record. -/
example : writtenItems (ofRoots [(.array (.nullable .number), "root")]).text =
    [.synonym "Root" (.list (.option .number))] := by
  decide +kernel

end Declarations

namespace FieldDecl

/-- Every choice of attributes stands for one way of being missing or `null`. -/
theorem flags_eq {f g : FieldDecl} (h : f.attributes = g.attributes) :
    f.mayMiss = g.mayMiss ∧ f.mayBeNull = g.mayBeNull := by
  rw [attributes, attributes] at h
  generalize f.mayMiss = fMiss, f.mayBeNull = fNull, g.mayMiss = gMiss, g.mayBeNull = gNull at h ⊢
  revert h
  revert fMiss fNull gMiss gNull
  decide

/-- A field is determined by how it is written. -/
theorem member_injective : Function.Injective member := by
  intro f g h
  have hfield : f.written = g.written := congrArg WrittenMember.toWrittenField h
  obtain ⟨hident, hkey⟩ : f.ident = g.ident ∧ f.key = g.key := WrittenField.mk.inj hfield
  obtain ⟨hmiss, hnull⟩ := flags_eq (congrArg WrittenMember.attributes h)
  have htype : f.type = g.type := congrArg WrittenMember.type h
  cases f
  cases g
  rw [FieldDecl.mk.injEq]
  exact ⟨hident, hkey, hmiss, hnull, htype⟩

end FieldDecl

theorem Item.written_injective : Function.Injective Item.written := by
  intro item other h
  cases item with
  | struct name fields =>
    cases other with
    | struct name' fields' =>
      obtain ⟨rfl, hfields⟩ := WrittenItem.struct.inj h
      rw [List.map_injective_iff.mpr FieldDecl.member_injective hfields]
    | synonym => cases h
  | synonym name type =>
    cases other with
    | struct => cases h
    | synonym name' type' =>
      obtain ⟨rfl, rfl⟩ := WrittenItem.synonym.inj h
      rfl

/-- **Files of the same text have the same items.** -/
theorem Declarations.items_eq_of_text_eq {roots others : List (Schema × String)}
    (hnames : ∀ item ∈ (ofRoots roots).items, item.name ≠ "String")
    (hothers : ∀ item ∈ (ofRoots others).items, item.name ≠ "String")
    (h : (ofRoots roots).text = (ofRoots others).text) : (ofRoots roots).items = (ofRoots others).items := by
  have hwritten := writtenItems_text hnames
  rw [h, writtenItems_text hothers] at hwritten
  exact (List.map_injective_iff.mpr Item.written_injective hwritten).symm

end JsonShape
