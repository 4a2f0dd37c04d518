import JsonShape.Proofs.Projection.FieldNames
import JsonShape.Proofs.Projection.Lines
import JsonShape.Proofs.Text.LineReaders
import JsonShape.Proofs.Text.Literal

/-!
# Fields in the text of a file

The text of a file is read line by line: `Line.of` tells a line that opens a record, a field and its identifier,
and the attribute with the name that a field has in documents.  A field without that attribute has its
identifier for a name, without the mark of a raw one.  A line belongs to what comes after it, so the lines are
taken from the last to the first (`readLines`).

What is read from a file of several roots are the fields of its declarations under their keys
(`Declarations.writtenRecords_text`), and these are well named after the records of the roots
(`records_well_written`).
-/

namespace JsonShape

/-- What a line says about the fields of a record. -/
inductive Line where
  | opening
  | field (ident : String)
  | rename (wire : String)
  | other
deriving DecidableEq

def Line.of (line : List Char) : Line :=
  if "pub struct ".toList <+: line then .opening
  else match line.dropPrefix? "    pub ".toList with
    | some rest => .field (String.ofList (rest.takeWhile fun c => c ≠ ':'))
    | none =>
      match (line.dropPrefix? "    #[serde(rename = \"".toList).bind (literalFrom none) with
      | some (wire, [')', ']']) => .rename (String.ofList wire)
      | _ => .other

/-- A field as it is written, with the name that it has in documents. -/
structure WrittenField where
  ident : String
  wire : String
deriving DecidableEq

/-- The records in a text, and before them fields of a record that is opened further up. -/
structure Written where
  fields : List WrittenField
  records : List (List WrittenField)

namespace Written

/-- What is written from a line on, given what is written after it. -/
def place : Line → Written → Written
  | .opening, ⟨fields, records⟩ => ⟨[], fields :: records⟩
  | .field ident, ⟨fields, records⟩ => ⟨⟨ident, unraw ident⟩ :: fields, records⟩
  | .rename wire, ⟨⟨ident, _⟩ :: fields, records⟩ => ⟨⟨ident, wire⟩ :: fields, records⟩
  | _, found => found

def readLines (text : List Char) : Written :=
  (text.splitOn '\n').foldr (fun line found => place (Line.of line) found) ⟨[], []⟩

end Written

/-- The fields of each record in a text. -/
def writtenRecords (text : String) : List (List WrittenField) := (Written.readLines text.toList).records

/-- The written fields have the names of the record in documents, in the same order; their identifiers differ, also
without the marks of raw ones, and those for names of ASCII are legal. -/
structure WellWritten (record : List (String × Schema)) (fields : List WrittenField) : Prop where
  wires : fields.map WrittenField.wire = Members.names record
  nodup : (fields.map WrittenField.ident).Nodup
  nodup_unraw : (fields.map fun field => unraw field.ident).Nodup
  legal : ∀ field ∈ fields, Ascii field.wire → IsIdentifier field.ident

namespace Written

/-! ## Lines -/

/-- The reader of the fields and their names. -/
def reader : LineReader Written := ⟨⟨[], []⟩, fun line => place (Line.of line)⟩

theorem readLines_line {line : List Char} (hb : Unbroken line) (rest : List Char) :
    readLines (line ++ '\n' :: rest) = place (Line.of line) (readLines rest) :=
  reader.read_line hb rest

/-- Lines that say nothing about fields. -/
def Silent (text : List Char) : Prop := ∀ rest, readLines (text ++ rest) = readLines rest

theorem Silent.append {text more : List Char} (h : Silent text) (h' : Silent more) : Silent (text ++ more) :=
  LineReader.Skips.append (r := reader) h h'

theorem take_other {line : List Char} (h : Line.of line = .other) (found : Written) :
    reader.take line found = found := by
  show place (Line.of line) found = found
  rw [h]
  rfl

theorem silent_of_other {lines : List Char} (h : ∀ line ∈ lines.splitOn '\n', Line.of line = .other) :
    Silent (lines ++ ['\n']) :=
  LineReader.skips_lines fun line hl => take_other (h line hl)

theorem silent_text {text : String} (hlast : text.toList.getLast? = some '\n')
    (h : ∀ line ∈ text.toList.dropLast.splitOn '\n', Line.of line = .other) : Silent text.toList :=
  LineReader.skips_text hlast fun line hl => take_other (h line hl)

theorem lineOf_field {ident : List Char} (hi : ':' ∉ ident) (more : List Char) :
    Line.of ("    pub ".toList ++ (ident ++ ':' :: more)) = .field (String.ofList ident) := by
  have hopening : ¬ "pub struct ".toList <+: "    pub ".toList ++ (ident ++ ':' :: more) := by simp
  have hname : (ident ++ ':' :: more).takeWhile (fun c => c ≠ ':') = ident := by
    rw [List.takeWhile_append_of_pos fun c hc => decide_eq_true (ne_of_mem_of_not_mem hc hi)]
    simp
  rw [Line.of, if_neg hopening, List.dropPrefix?_append_of_beq _ (beq_self_eq_true _)]
  simp only [hname]

theorem lineOf_rename (wire : String) :
    Line.of ("    #[serde(rename = ".toList ++ ((literal wire).toList ++ [')', ']'])) = .rename wire := by
  obtain ⟨body, hbody, hread⟩ := literalFrom_literal wire [')', ']']
  have hquoted : "    #[serde(rename = \"".toList = "    #[serde(rename = ".toList ++ ['"'] := by decide
  have hline : "    #[serde(rename = ".toList ++ ((literal wire).toList ++ [')', ']']) =
      "    #[serde(rename = \"".toList ++ (body ++ [')', ']']) := by
    rw [hbody, hquoted, List.append_assoc]
    rfl
  have hopening : ¬ "pub struct ".toList <+: "    #[serde(rename = \"".toList ++ (body ++ [')', ']']) := by simp
  have hfield :
      ("    #[serde(rename = \"".toList ++ (body ++ [')', ']'])).dropPrefix? "    pub ".toList = none := rfl
  rw [hline, Line.of, if_neg hopening, hfield, List.dropPrefix?_append_of_beq _ (beq_self_eq_true _),
    Option.bind_some, hread]
  exact congrArg Line.rename String.ofList_toList

end Written

open Written

/-! ## Fields -/

namespace FieldDecl

/-- The line of a field gives it its identifier for a name. -/
theorem readLines_ident {ident : String} (hi : FieldName ident) {type : List Char} (ht : Unbroken type)
    (rest : List Char) :
    readLines ("    pub ".toList ++ (ident.toList ++ ':' :: type) ++ '\n' :: rest) =
      ⟨⟨ident, unraw ident⟩ :: (readLines rest).fields, (readLines rest).records⟩ := by
  have hcolon : ':' ∉ ident.toList := hi.notMem (by decide) (by decide)
  have hnewline : Unbroken ident.toList := hi.notMem (by decide) (by decide)
  have hline : Unbroken ("    pub ".toList ++ (ident.toList ++ ':' :: type)) :=
    Unbroken.append (by decide) (hnewline.append (.cons (by decide) ht))
  rw [readLines_line hline, lineOf_field hcolon, String.ofList_toList]
  rfl

/-- The line with the name of a field in documents. -/
def renameLine (key : String) : List Char := "    #[serde(rename = ".toList ++ ((literal key).toList ++ [')', ']'])

theorem unbroken_renameLine (key : String) : Unbroken (renameLine key) := by
  delta renameLine
  exact Unbroken.append (by decide) ((unbroken_literal key).append (by decide))

theorem toList_rename (key : String) (rest : List Char) :
    (attributeLine ("rename = " ++ literal key)).toList ++ rest = renameLine key ++ '\n' :: rest := by
  delta renameLine
  simp [attributeLine]

/-- An attribute gives the name of the field after it. -/
theorem readLines_rename (key : String) (rest : List Char) :
    readLines ((attributeLine ("rename = " ++ literal key)).toList ++ rest) =
      place (.rename key) (readLines rest) := by
  -- a text with line breaks is one line, since they are escaped
  rw [toList_rename, readLines_line (unbroken_renameLine key)]
  exact congrArg (fun line => place line (readLines rest)) (lineOf_rename key)

/-- No other attribute gives a name. -/
theorem silent_attributes (f : FieldDecl) :
    Silent (if f.attributes.isEmpty then "" else attributeLine (String.intercalate ", " f.attributes)).toList := by
  rw [attributes]
  cases f.mayMiss with
  | true => cases f.mayBeNull <;> exact silent_text (by decide) (by decide)
  | false =>
    cases f.mayBeNull with
    | true => exact silent_text (by decide) (by decide)
    | false => exact fun rest => rfl

/-- The lines of a field, in front of others. -/
theorem toList_text (f : FieldDecl) (rest : List Char) : f.text.toList ++ rest =
    (if f.isRenamed then attributeLine ("rename = " ++ literal f.key) else "").toList ++
      ((if f.attributes.isEmpty then "" else attributeLine (String.intercalate ", " f.attributes)).toList ++
        ("    pub ".toList ++ (f.ident.toList ++ ':' :: ' ' :: (f.type.text.toList ++ [','])) ++ '\n' :: rest)) := by
  simp [text]

/-- **A field reads back** with its key for a name. -/
theorem readLines_text {f : FieldDecl} (hi : FieldName f.ident) (ht : Unbroken f.type.text.toList)
    (rest : List Char) :
    readLines (f.text.toList ++ rest) =
      ⟨⟨f.ident, f.key⟩ :: (readLines rest).fields, (readLines rest).records⟩ := by
  have htype : Unbroken (' ' :: (f.type.text.toList ++ [','])) := .cons (by decide) (ht.append (by decide))
  have hline := readLines_ident hi htype rest
  rw [toList_text]
  by_cases hr : f.isRenamed = true
  · rw [if_pos hr, readLines_rename, f.silent_attributes, hline]
    rfl
  · have hkey : unraw f.ident = f.key := by
      rw [isRenamed, hi.unmarked_eq] at hr
      simpa using hr
    rw [if_neg hr, String.toList_empty, List.nil_append, f.silent_attributes, hline, hkey]

end FieldDecl

/-- The field as it is written. -/
def FieldDecl.written (f : FieldDecl) : WrittenField := ⟨f.ident, f.key⟩

/-! ## Items -/

/-- The names in an item have no line breaks, and the identifiers of its fields are names of fields. -/
structure Item.Legible (item : Item) : Prop where
  name : Unbroken item.name.toList
  mentions : ∀ name ∈ item.mentions, Unbroken name.toList
  idents : ∀ field ∈ item.fields, FieldName field.ident

theorem readLines_fields {fields : List FieldDecl}
    (h : ∀ field ∈ fields, FieldName field.ident ∧ Unbroken field.type.text.toList) (rest : List Char) :
    readLines (fields.flatMap (fun field => field.text.toList) ++ rest) =
      ⟨fields.map FieldDecl.written ++ (readLines rest).fields, (readLines rest).records⟩ := by
  induction fields with
  | nil => rfl
  | cons field others ih =>
    obtain ⟨⟨hi, ht⟩, hothers⟩ := List.forall_mem_cons.mp h
    rw [List.flatMap_cons, List.append_assoc, field.readLines_text hi ht, ih hothers]
    rfl

namespace Item

/-- The line that opens a record. -/
def openingLine (name : String) : List Char := "pub struct ".toList ++ (name.toList ++ [' ', '\x7b'])

/-- The line of a synonym. -/
def synonymLine (name : String) (type : TypeExpr) : List Char :=
  "pub type ".toList ++ (name.toList ++ (" = ".toList ++ (type.text.toList ++ [';'])))

theorem toList_text_struct (name : String) (fields : List FieldDecl) (rest : List Char) :
    (struct name fields).text.toList ++ rest = derivedTraits.toList ++ (openingLine name ++ '\n' ::
      (fields.flatMap (fun field => field.text.toList) ++ (['\x7d'] ++ ['\n'] ++ rest))) := by
  delta openingLine
  simp [text, List.flatMap_map]

theorem toList_text_synonym (name : String) (type : TypeExpr) (rest : List Char) :
    (synonym name type).text.toList ++ rest = synonymLine name type ++ '\n' :: rest := by
  delta synonymLine
  simp [text]

theorem unbroken_openingLine {name : String} (h : Unbroken name.toList) : Unbroken (openingLine name) := by
  delta openingLine
  exact Unbroken.append (by decide) (h.append (by decide))

theorem unbroken_synonymLine {name : String} (h : Unbroken name.toList) {type : TypeExpr}
    (ht : Unbroken type.text.toList) : Unbroken (synonymLine name type) := by
  delta synonymLine
  exact Unbroken.append (by decide) (h.append (Unbroken.append (by decide) (ht.append (by decide))))

theorem lineOf_openingLine (name : String) : Line.of (openingLine name) = .opening := by
  delta openingLine
  rw [Line.of, if_pos (List.prefix_append _ _)]

theorem lineOf_synonymLine (name : String) (type : TypeExpr) : Line.of (synonymLine name type) = .other := by
  delta synonymLine
  rw [Line.of, if_neg (by simp)]
  rfl

/-- What is written in a text that begins with an item and has no fields after it. -/
theorem readLines_text {item : Item} (h : item.Legible) {rest : List Char}
    (hr : (readLines rest).fields = []) :
    readLines (item.text.toList ++ rest) =
      ⟨[], (item.record?.map (List.map FieldDecl.written)).toList ++ (readLines rest).records⟩ := by
  cases item with
  | struct name fields =>
    have hfields : ∀ field ∈ fields, FieldName field.ident ∧ Unbroken field.type.text.toList := by
      refine fun field hf => ⟨h.idents field hf, unbroken_typeText fun name hn => h.mentions name ?_⟩
      exact List.mem_flatMap.mpr ⟨field, hf, hn⟩
    have hderived : Silent derivedTraits.toList := silent_text (by decide) (by decide)
    have hclose : Silent (['\x7d'] ++ ['\n']) := silent_of_other (by decide)
    have hname : Unbroken name.toList := h.name
    rw [toList_text_struct, hderived, readLines_line (unbroken_openingLine hname), lineOf_openingLine,
      readLines_fields hfields, hclose, hr, List.append_nil]
    rfl
  | synonym name type =>
    have hname : Unbroken name.toList := h.name
    have hline := unbroken_synonymLine hname (unbroken_typeText h.mentions)
    rw [toList_text_synonym, readLines_line hline, lineOf_synonymLine, ← hr]
    rfl

end Item

theorem readLines_items {items : List Item} (h : ∀ item ∈ items, item.Legible) :
    readLines (items.flatMap fun item => '\n' :: item.text.toList) =
      ⟨[], (items.filterMap Item.record?).map (List.map FieldDecl.written)⟩ := by
  induction items with
  | nil => rfl
  | cons item rest ih =>
    obtain ⟨hitem, hrest⟩ := List.forall_mem_cons.mp h
    have hrest := ih hrest
    have hblank : Silent "\n".toList := silent_text (by decide) (by decide)
    have hbreak : "\n".toList = ['\n'] := by decide
    rw [List.flatMap_cons, List.cons_append, ← List.singleton_append, ← hbreak, hblank,
      item.readLines_text hitem (by rw [hrest]), hrest]
    cases item with
    | struct name fields => rfl
    | synonym name type => rfl

/-! ## Files -/

namespace Declarations

theorem legible_ofRoots (roots : List (Schema × String)) : ∀ item ∈ (ofRoots roots).items, item.Legible := by
  intro item hi
  obtain ⟨hname, -⟩ := declared_unbroken roots item hi
  refine ⟨hname, fun name hn => ?_, fun field hf => ?_⟩
  · obtain ⟨later, hl, rfl⟩ := (mentionsLater_ofRoots roots).mem hi hn
    exact (declared_unbroken roots later hl).1
  · cases item with
    | struct name fields =>
      obtain ⟨record, hnamed⟩ := (declaredBy_ofRoots roots).wellNamed hi
      exact hnamed.fieldName field hf
    | synonym name type => cases hf

theorem silent_heading : Silent heading.toList := silent_text (by decide) (by decide)

theorem silent_presentReader : Silent presentReader.toList := by
  delta presentReader
  simp only [String.toList_append]
  iterate 7 refine Silent.append ?_ (silent_text (by decide) (by decide))
  exact silent_text (by decide) (by decide)

/-- The lines of a file. -/
theorem toList_text (d : Declarations) : d.text.toList =
    heading.toList ++ (if d.needsPresent then presentReader else "").toList ++
      d.items.flatMap fun item => '\n' :: item.text.toList := by
  have hitems : (String.join (d.items.map fun item => "\n" ++ item.text)).toList =
      d.items.flatMap fun item => '\n' :: item.text.toList := by
    simp [List.flatMap_map]
  rw [text, String.toList_append, String.toList_append, hitems]

/-- **The text of a file tells its records**: their fields, and the keys of these. -/
theorem writtenRecords_text (roots : List (Schema × String)) : writtenRecords (ofRoots roots).text =
    ((ofRoots roots).items.filterMap Item.record?).map (List.map FieldDecl.written) := by
  have hreader : Silent (if (ofRoots roots).needsPresent then presentReader else "").toList := by
    by_cases hn : (ofRoots roots).needsPresent = true
    · rw [if_pos hn]
      exact silent_presentReader
    · rw [if_neg hn]
      exact fun rest => rfl
  rw [writtenRecords, toList_text, (silent_heading.append hreader) _, readLines_items (legible_ofRoots roots)]

end Declarations

/-- **Declared records are well written**: the text of a file of several roots has one record for each record in
the roots, an outer one before the ones in it, and each of them has the fields of its record. -/
theorem records_well_written (roots : List (Schema × String)) :
    List.Forall₂ WellWritten (roots.flatMap fun root => root.1.records)
      (writtenRecords (Declarations.ofRoots roots).text) := by
  rw [Declarations.writtenRecords_text, List.forall₂_map_right_iff]
  refine (Declarations.declaredBy_ofRoots roots).imp fun record fields h => ?_
  refine ⟨?_, ?_, ?_, fun field hf hascii => ?_⟩
  · rw [List.map_map, ← h.keys]
    rfl
  · rw [List.map_map]
    exact h.nodup
  · rw [List.map_map]
    exact h.nodup_unraw
  · obtain ⟨decl, hd, rfl⟩ := List.mem_map.mp hf
    exact h.isIdentifier hd hascii

/-- A keyword, and a name that collides with it. -/
example :
    writtenRecords (Declarations.ofRoots [(.construct [("type", .boolean), ("Type", .boolean)], "root")]).text =
      [[⟨"r#type", "type"⟩, ⟨"type_2", "Type"⟩]] := by decide +kernel

end JsonShape
