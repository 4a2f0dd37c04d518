import JsonShape.Proofs.CommandLine.Check
import JsonShape.Proofs.Json.Reading
import JsonShape.Proofs.Schema.Induction
import JsonShape.Proofs.Text.Unbroken

/-!
# Documents on the lines of a file

A file with one document a line is checked as if each of its lines that is not blank were a file of its own.
`Lined` says what such a file is made of, and counts its lines; the one thing that the reader of lines may take
from a text is a carriage return at its end, and that is no part of a document (`shows_of_bare`).
-/

namespace JsonShape

/-! ## Lines -/

/-- What ends a line. -/
def EndsLine (ending : List Char) : Prop := ending = ['\n'] ∨ ending = ['\r', '\n']

/-- A line of white space, or an empty one. -/
def BlankLine (line : List Char) : Prop := Unbroken line ∧ line.all isBlank = true

/-- A line with more than white space. -/
def WrittenLine (line : List Char) : Prop := Unbroken line ∧ line.all isBlank = false

/-- The file is made of the texts of the entries, each on a line of its own and with the number of that line,
and of blank lines.  Its first line has the given number, and its last one need not be ended. -/
inductive Lined : Nat → List (Nat × String) → List Char → Prop
  | empty {number : Nat} : Lined number [] []
  | blank {number : Nat} {entries : List (Nat × String)} {line ending rest : List Char} (hl : BlankLine line)
      (he : EndsLine ending) (hr : Lined (number + 1) entries rest) :
      Lined number entries (line ++ (ending ++ rest))
  | text {number : Nat} {text : String} {entries : List (Nat × String)} {ending rest : List Char}
      (ht : WrittenLine text.toList) (he : EndsLine ending) (hr : Lined (number + 1) entries rest) :
      Lined number ((number, text) :: entries) (text.toList ++ (ending ++ rest))
  | lastBlank {number : Nat} {line : List Char} (hl : BlankLine line) : Lined number [] line
  | lastText {number : Nat} {text : String} (ht : WrittenLine text.toList) :
      Lined number [(number, text)] text.toList

/-- The line is the bare one, but for a carriage return at its end. -/
def IsBare (bare line : List Char) : Prop := line = bare ∨ line = bare ++ ['\r']

theorem IsBare.cons {bare line : List Char} (h : IsBare bare line) (c : Char) :
    IsBare (c :: bare) (c :: line) := by
  rcases h with rfl | rfl
  · exact .inl rfl
  · exact .inr rfl

theorem IsBare.all_isBlank {bare line : List Char} (h : IsBare bare line) :
    bare.all isBlank = line.all isBlank := by
  rcases h with rfl | rfl
  · rfl
  · rw [List.all_append, show ['\r'].all isBlank = true from rfl, Bool.and_true]

/-- A character goes to the front of the first line, unless it ends one. -/
theorem linesOf_cons {c : Char} {text line : List Char} {lines : List (List Char)} (hc : c ≠ '\n')
    (hreturn : c = '\r' → text.head? ≠ some '\n') (h : linesOf text = line :: lines) :
    linesOf (c :: text) = (c :: line) :: lines := by
  rw [linesOf.eq_def]
  split
  · rename_i he; cases he
  · rename_i he; cases he; exact absurd rfl hc
  · rename_i he; cases he; exact absurd rfl (hreturn rfl)
  · rename_i he
    cases he
    simp only [h]

/-- A line that is ended is taken from the front of a text, without the carriage return at its end. -/
theorem linesOf_ended {line ending : List Char} (hl : Unbroken line) (he : EndsLine ending)
    (rest : List Char) :
    ∃ bare, IsBare bare line ∧ linesOf (line ++ (ending ++ rest)) = bare :: linesOf rest := by
  induction line with
  | nil =>
    refine ⟨[], .inl rfl, ?_⟩
    rcases he with rfl | rfl
    all_goals rfl
  | cons c others ih =>
    have hc : c ≠ '\n' := fun h => hl (h ▸ List.mem_cons_self)
    obtain ⟨bare, hbare, hlines⟩ := ih hl.of_cons
    -- a carriage return is dropped only in front of the line break, and then it is the last of the line
    by_cases hreturn : c = '\r' ∧ (others ++ (ending ++ rest)).head? = some '\n'
    · obtain ⟨rfl, hhead⟩ := hreturn
      cases others with
      | nil =>
        rcases he with rfl | rfl
        · exact ⟨[], .inr rfl, rfl⟩
        · cases hhead
      | cons d _ =>
        cases Option.some.inj hhead
        exact absurd List.mem_cons_self hl.of_cons
    · refine ⟨c :: bare, hbare.cons c, linesOf_cons hc ?_ hlines⟩
      exact fun h hhead => hreturn ⟨h, hhead⟩

/-- What follows the last end of a line is a line as it is. -/
theorem linesOf_unended {line : List Char} (hl : Unbroken line) (hne : line ≠ []) :
    linesOf line = [line] := by
  induction line with
  | nil => exact absurd rfl hne
  | cons c others ih =>
    have hc : c ≠ '\n' := fun h => hl (h ▸ List.mem_cons_self)
    cases others with
    | nil => 
      rw [linesOf.eq_def]
      split <;> simp_all [linesOf]
    | cons d more =>
      refine linesOf_cons hc ?_ (ih hl.of_cons (List.cons_ne_nil _ _))
      intro _ hhead
      cases Option.some.inj hhead
      exact absurd List.mem_cons_self hl.of_cons

/-! ## Sheets -/

/-- The sheet holds a document just if the text does, and then the same one. -/
def Sheet.Shows (sheet : Sheet) (text : String) : Prop :=
  ∀ whole, Json.ofText sheet.text = .ok whole ↔ Json.ofText text = .ok whole

/-- A carriage return at the end of a text is no part of its document. -/
theorem Sheet.shows_of_bare {bare : List Char} {text : String} (h : IsBare bare text.toList)
    (label : String) : Sheet.Shows ⟨label, String.ofList bare⟩ text := by
  have hspelled : ∀ document, SpellsWhole document bare ↔ SpellsWhole document text.toList := by
    intro document
    rcases h with h | h
    · rw [h]
    · rw [h, spellsWhole_concat_iff (.inr (.inr (.inr rfl)))]
  intro whole
  simp only [Json.ofText_eq_ok_iff, String.toList_ofList, hspelled]

/-- The sheet is labelled by the number of the entry, and shows its text. -/
def Sheet.Bears (label : String) (entry : Nat × String) (sheet : Sheet) : Prop :=
  sheet.label = label ++ ":" ++ toString entry.1 ∧ sheet.Shows entry.2

/-- The sheets of a file are those of its entries. -/
theorem Lined.sheets {number : Nat} {entries : List (Nat × String)} {file : List Char}
    (h : Lined number entries file) (label : String) :
    List.Forall₂ (Sheet.Bears label) entries (Sheet.ofLines label number (linesOf file)) := by
  -- blank lines have no sheet, but they count; so the number of a line is that of its entry
  induction h with
  | empty => exact .nil
  | blank hl he _ ih =>
    obtain ⟨bare, hbare, hlines⟩ := linesOf_ended hl.1 he _
    rw [hlines, Sheet.ofLines, if_pos (hbare.all_isBlank.trans hl.2)]
    exact ih
  | text ht he _ ih =>
    obtain ⟨bare, hbare, hlines⟩ := linesOf_ended ht.1 he _
    rw [hlines, Sheet.ofLines, if_neg (by rw [hbare.all_isBlank, ht.2]; decide)]
    exact .cons ⟨rfl, Sheet.shows_of_bare hbare _⟩ ih
  -- the file may end without a line break, or with nothing after the last one
  | @lastBlank number line hl =>
    cases line with
    | nil => exact .nil
    | cons c others =>
      rw [linesOf_unended hl.1 (List.cons_ne_nil _ _), Sheet.ofLines, if_pos hl.2]
      exact .nil
  | @lastText number text ht =>
    have hne : text.toList ≠ [] := by
      intro h
      have hwritten := ht.2
      rw [h] at hwritten
      cases hwritten
    rw [linesOf_unended ht.1 hne, Sheet.ofLines, if_neg (by rw [ht.2]; decide)]
    exact .cons ⟨rfl, Sheet.shows_of_bare (.inl rfl) _⟩ .nil

theorem labels_of_bears {label : String} {entries : List (Nat × String)} {sheets : List Sheet}
    (h : List.Forall₂ (Sheet.Bears label) entries sheets) :
    sheets.map Sheet.label = entries.map fun entry => label ++ ":" ++ toString entry.1 := by
  induction h with
  | nil => rfl
  | cons hbears _ ih => rw [List.map_cons, List.map_cons, hbears.1, ih]

/-- A file that is read as a whole is one sheet with all of its text. -/
theorem exists_sheets_of_files {tree : FileTree} {sources : List Source} {entries : List (Nat × String)}
    (h : List.Forall₂ (fun source entry => tree.readText source.path = .ok entry.2) sources entries) :
    ∃ sheets, Sheet.OfFiles tree false sources sheets ∧
      List.Forall₂ (fun entry sheet => sheet.Shows entry.2) entries sheets := by
  induction h with
  | nil => exact ⟨[], .nil, .nil⟩
  | @cons source entry _ _ htext _ ih =>
    obtain ⟨sheets, hsheets, hshows⟩ := ih
    exact ⟨⟨source.label, entry.2⟩ :: sheets, .cons htext hsheets, .cons (fun _ => .rfl) hshows⟩

/-- Sheets that show given texts hold the documents of these, under their own labels. -/
theorem exists_documents_of_sheets (pointer : Option String) {entries : List (Nat × String)}
    {sheets : List Sheet} {wholes : List Json}
    (hs : List.Forall₂ (fun entry sheet => sheet.Shows entry.2) entries sheets)
    (hw : List.Forall₂ (fun entry whole => Json.ofText entry.2 = .ok whole) entries wholes) :
    ∃ documents, List.Forall₂ (Sheet.Holds pointer) sheets documents ∧
      documents.map Document.value = wholes.map (selected pointer) ∧
      documents.map Document.label = sheets.map Sheet.label := by
  induction hs generalizing wholes with
  | nil =>
    obtain rfl := List.forall₂_nil_left_iff.mp hw
    exact ⟨[], .nil, rfl, rfl⟩
  | @cons entry sheet _ _ hshows _ ih =>
    obtain ⟨whole, others, hwhole, hothers, rfl⟩ := List.forall₂_cons_left_iff.mp hw
    obtain ⟨documents, hholds, hvalues, hlabels⟩ := ih hothers
    refine ⟨⟨sheet.label, selected pointer whole⟩ :: documents, ?_, ?_, ?_⟩
    · exact .cons ⟨rfl, whole, (hshows whole).mpr hwhole, rfl⟩ hholds
    · rw [List.map_cons, List.map_cons, hvalues]
    · rw [List.map_cons, List.map_cons, hlabels]

/-! ## Both ways of reading -/

/-- Where something is not as wanted, there is a first such thing. -/
theorem exists_first {α : Type} {wanted : α → Prop} {xs : List α} (h : ∃ x ∈ xs, ¬ wanted x) :
    ∃ before x after, xs = before ++ x :: after ∧ (∀ y ∈ before, wanted y) ∧ ¬ wanted x := by
  induction xs with
  | nil => simp at h
  | cons x rest ih =>
    by_cases hx : wanted x
    · obtain ⟨y, hy, hunwanted⟩ := h
      rcases List.mem_cons.mp hy with rfl | hy
      · exact absurd hx hunwanted
      · obtain ⟨before, first, after, rfl, hbefore, hfirst⟩ := ih ⟨y, hy, hunwanted⟩
        exact ⟨x :: before, first, after, rfl, List.forall_mem_cons.mpr ⟨hx, hbefore⟩, hfirst⟩
    · exact ⟨[], x, rest, rfl, by simp, hx⟩

/-- With a schema, the outcomes of a check are what the schema makes of the documents. -/
theorem checkOutcomes_eq {tree : FileTree} {options : CheckOptions} {schema : Schema}
    (hs : loadSchema tree options.schema = .ok schema) :
    checkOutcomes tree options =
      (loadDocuments tree options.linewise options.pointer options.inputs).map fun documents =>
        documents.map (DocumentOutcome.ofDocument schema options.cap) := by
  rw [checkOutcomes, hs]
  show (loadDocuments tree options.linewise options.pointer options.inputs >>= _) = _
  cases loadDocuments tree options.linewise options.pointer options.inputs <;> rfl

section Both

variable {tree : FileTree} {options : CheckOptions} {schema : Schema} {lineInputs fileInputs : List String}
  {source : Source} {file : String} {sources : List Source} {entries : List (Nat × String)}

/-- If all texts hold documents, both ways of reading lead to the same ones. -/
theorem documents_linewise (hlines : expandInputs tree lineInputs = .ok [source])
    (hfile : tree.readText source.path = .ok file) (hlined : Lined 1 entries file.toList)
    (hfiles : expandInputs tree fileInputs = .ok sources)
    (htexts : List.Forall₂ (fun source entry => tree.readText source.path = .ok entry.2) sources entries)
    (hall : ∀ entry ∈ entries, HoldsDocument entry.2) (pointer : Option String) :
    ∃ lines files, loadDocuments tree true pointer lineInputs = .ok lines ∧
      loadDocuments tree false pointer fileInputs = .ok files ∧
      lines.map Document.value = files.map Document.value ∧
      lines.map Document.label = entries.map fun entry => source.label ++ ":" ++ toString entry.1 := by
  -- the documents of the texts are chosen once, and both readings are compared with them
  obtain ⟨wholes, hwholes⟩ := exists_forall₂ hall
  have hbears := hlined.sheets source.label
  obtain ⟨lines, hlineHolds, hlineValues, hlineLabels⟩ :=
    exists_documents_of_sheets pointer (hbears.imp fun _ _ h => h.2) hwholes
  obtain ⟨sheets, hsheets, hshows⟩ := exists_sheets_of_files htexts
  obtain ⟨files, hfileHolds, hfileValues, -⟩ := exists_documents_of_sheets pointer hshows hwholes
  have hlineSheets : Sheet.OfFiles tree true [source] (Sheet.ofText true source file) := by
    rw [← List.append_nil (Sheet.ofText true source file)]
    exact .cons hfile .nil
  refine ⟨lines, files, loadDocuments_eq_ok_iff.mpr ⟨_, _, hlines, hlineSheets, hlineHolds⟩,
    loadDocuments_eq_ok_iff.mpr ⟨_, _, hfiles, hsheets, hfileHolds⟩, ?_, ?_⟩
  · rw [hlineValues, hfileValues]
  · rw [hlineLabels, labels_of_bears hbears]

/-- If a text holds no document, reading by lines fails at its line. -/
theorem loadDocuments_linewise_eq_error (hlines : expandInputs tree lineInputs = .ok [source])
    (hfile : tree.readText source.path = .ok file) {before after : List (Nat × String)}
    {entry : Nat × String} (hlined : Lined 1 (before ++ entry :: after) file.toList)
    (hbefore : ∀ earlier ∈ before, HoldsDocument earlier.2) (hentry : ¬ HoldsDocument entry.2)
    (pointer : Option String) : ∃ causes, loadDocuments tree true pointer lineInputs =
      .error (("failed to parse JSON (" ++ (source.label ++ ":" ++ toString entry.1) ++ ")") :: causes) := by
  obtain ⟨earlier, _, hsheets, hearlier, hlater⟩ := exists_append_of_forall₂ (hlined.sheets source.label)
  obtain ⟨sheet, later, hbears, -, rfl⟩ := List.forall₂_cons_left_iff.mp hlater
  -- sheets are read in the order of the lines, so those before the bad one are read without fault
  have hread : ∀ sheet ∈ earlier, ∃ document, sheet.read pointer = .ok document := by
    intro sheet hs
    obtain ⟨entry, he, -, hshows⟩ := exists_of_forall₂ hearlier.flip hs
    obtain ⟨whole, hwhole⟩ := hbefore entry he
    exact ⟨⟨sheet.label, selected pointer whole⟩,
      Sheet.read_eq_ok_iff.mpr ⟨rfl, whole, (hshows whole).mpr hwhole, rfl⟩⟩
  have hfails : ¬ sheet.Legible := by
    rintro ⟨whole, hwhole⟩
    exact hentry ⟨whole, (hbears.2 whole).mp hwhole⟩
  obtain ⟨causes, herror⟩ := Sheet.read_eq_error pointer hfails
  rw [hbears.1] at herror
  -- the first fault ends the reading, whatever the later sheets hold
  have hdocuments := mapM_eq_error hread herror later
  rw [← hsheets, ← documentsOfLines_eq_mapM] at hdocuments
  refine ⟨causes, ?_⟩
  -- the file is the only source, so its fault is that of all documents
  rw [loadDocuments, hlines]
  show ([source].mapM (documentsOfSource tree true pointer) >>= fun documents =>
    pure documents.flatten) = _
  rw [List.mapM_cons, documentsOfSource, hfile]
  show ((documentsOfLines pointer source.label 1 (linesOf file.toList) >>= _) >>= _) = _
  rw [hdocuments]
  rfl

/-- If a text holds no document, reading its file fails. -/
theorem loadDocuments_files_eq_error (hfiles : expandInputs tree fileInputs = .ok sources)
    (htexts : List.Forall₂ (fun source entry => tree.readText source.path = .ok entry.2) sources entries)
    (hfails : ∃ entry ∈ entries, ¬ HoldsDocument entry.2) (pointer : Option String) :
    ∃ trouble, loadDocuments tree false pointer fileInputs = .error trouble := by
  rw [exists_error_iff, exists_loadDocuments_iff]
  rintro ⟨found, hfound, hload⟩
  obtain rfl : sources = found := Except.ok.inj (hfiles.symm.trans hfound)
  obtain ⟨entry, he, hentry⟩ := hfails
  obtain ⟨source, hs, htext⟩ := exists_of_forall₂ htexts.flip he
  obtain ⟨text, hread, hlegible⟩ := hload source hs
  obtain rfl : entry.2 = text := Except.ok.inj (htext.symm.trans hread)
  exact hentry (hlegible ⟨source.label, entry.2⟩ List.mem_cons_self)

/-- **A file of lines is checked as its lines are**: if every text holds a document, the documents, their values
and what the schema makes of them are the same whether the texts are lines of one file or files of their own,
and the lines are labelled by their numbers.  If some text holds none, both checks fail, and the one by lines
names the line of the first such text. -/
theorem linewise_agrees (color : Bool) (hschema : loadSchema tree options.schema = .ok schema)
    (hlines : expandInputs tree lineInputs = .ok [source]) (hfile : tree.readText source.path = .ok file)
    (hlined : Lined 1 entries file.toList) (hfiles : expandInputs tree fileInputs = .ok sources)
    (htexts : List.Forall₂ (fun source entry => tree.readText source.path = .ok entry.2) sources entries) :
    ((∀ entry ∈ entries, HoldsDocument entry.2) → ∃ lines files,
      loadDocuments tree true options.pointer lineInputs = .ok lines ∧
      loadDocuments tree false options.pointer fileInputs = .ok files ∧
      lines.map Document.value = files.map Document.value ∧
      lines.map Document.label = (entries.map fun entry => source.label ++ ":" ++ toString entry.1) ∧
      ∃ lineOutcomes fileOutcomes,
        checkOutcomes tree { options with linewise := true, inputs := lineInputs } = .ok lineOutcomes ∧
        checkOutcomes tree { options with linewise := false, inputs := fileInputs } = .ok fileOutcomes ∧
        lineOutcomes.map DocumentOutcome.result = fileOutcomes.map DocumentOutcome.result ∧
        lineOutcomes.map DocumentOutcome.label = lines.map Document.label) ∧
    ((∃ entry ∈ entries, ¬ HoldsDocument entry.2) → ∃ before entry after,
      entries = before ++ entry :: after ∧ (∀ earlier ∈ before, HoldsDocument earlier.2) ∧
      ¬ HoldsDocument entry.2 ∧
      (∃ causes, Command.run tree color (.check { options with linewise := true, inputs := lineInputs }) =
        .error (("failed to parse JSON (" ++ (source.label ++ ":" ++ toString entry.1) ++ ")") :: causes)) ∧
      ∃ trouble, Command.run tree color (.check { options with linewise := false, inputs := fileInputs }) =
        .error trouble) := by
  -- both checks have the same schema and cap, so they differ in the documents only
  have hchecked : ∀ linewise inputs, checkOutcomes tree { options with linewise, inputs } =
      (loadDocuments tree linewise options.pointer inputs).map fun documents =>
        documents.map (DocumentOutcome.ofDocument schema options.cap) :=
    fun linewise inputs => checkOutcomes_eq hschema
  constructor
  · intro hall
    obtain ⟨lines, files, hlineDocuments, hfileDocuments, hvalues, hlabels⟩ :=
      documents_linewise hlines hfile hlined hfiles htexts hall options.pointer
    -- a result depends on the value of a document and not on its label
    have hresults : ∀ documents : List Document,
        (documents.map (DocumentOutcome.ofDocument schema options.cap)).map DocumentOutcome.result =
          (documents.map Document.value).map (schema.parse · options.cap) := by
      intro documents
      rw [List.map_map, List.map_map]
      rfl
    refine ⟨lines, files, hlineDocuments, hfileDocuments, hvalues, hlabels,
      lines.map (DocumentOutcome.ofDocument schema options.cap),
      files.map (DocumentOutcome.ofDocument schema options.cap), ?_, ?_, ?_, ?_⟩
    · rw [hchecked, hlineDocuments]
      rfl
    · rw [hchecked, hfileDocuments]
      rfl
    · rw [hresults, hresults, hvalues]
    · rw [List.map_map]
      rfl
  · intro hsome
    -- the reader by lines stops at the first bad text; which of the files is named does not matter
    obtain ⟨before, entry, after, rfl, hbefore, hentry⟩ := exists_first hsome
    obtain ⟨causes, hline⟩ :=
      loadDocuments_linewise_eq_error hlines hfile hlined hbefore hentry options.pointer
    obtain ⟨trouble, hplain⟩ := loadDocuments_files_eq_error hfiles htexts hsome options.pointer
    refine ⟨before, entry, after, rfl, hbefore, hentry, ⟨causes, ?_⟩, trouble, ?_⟩
    · refine Command.run_check_eq_error ?_ color
      rw [hchecked, hline]
      rfl
    · refine Command.run_check_eq_error ?_ color
      rw [hchecked, hplain]
      rfl

end Both

/-- A schema, a file with a text on its first and its third line, and a file for each of the texts. -/
def linedTree : FileTree :=
  ⟨.directory [("schema.json", .file "\x7b\"type\":\"number\"\x7d".toUTF8),
    ("all.ndjson", .file "1\r\n \n\"a\"".toUTF8), ("first.json", .file "1".toUTF8),
    ("second.json", .file "\"a\"".toUTF8)], []⟩

/-- A check by the schema of that tree. -/
def linedOptions : CheckOptions := ⟨"schema.json", [], true, none, 64, .text, false⟩

theorem linewise_agrees_sample : ∃ lines files,
    loadDocuments linedTree true none ["all.ndjson"] = .ok lines ∧
    loadDocuments linedTree false none ["first.json", "second.json"] = .ok files ∧
    lines.map Document.value = files.map Document.value ∧
    lines.map Document.label = ["all.ndjson:1", "all.ndjson:3"] := by
  have hdescriptor : linedTree.readText "schema.json" = .ok "\x7b\"type\":\"number\"\x7d" :=
    FileTree.readText_of_trail rfl
  have hschema : loadSchema linedTree linedOptions.schema = .ok .number :=
    loadSchema_eq_ok_iff.mpr ⟨_, hdescriptor, by decide +kernel⟩
  have hlines : expandInputs linedTree ["all.ndjson"] = .ok [⟨"all.ndjson", "all.ndjson"⟩] := rfl
  have hfiles : expandInputs linedTree ["first.json", "second.json"] =
      .ok [⟨"first.json", "first.json"⟩, ⟨"second.json", "second.json"⟩] := rfl
  have hfile : linedTree.readText "all.ndjson" = .ok "1\r\n \n\"a\"" :=
    FileTree.readText_of_trail rfl
  have hfirst : linedTree.readText "first.json" = .ok "1" :=
    FileTree.readText_of_trail rfl
  have hsecond : linedTree.readText "second.json" = .ok "\"a\"" :=
    FileTree.readText_of_trail rfl
  -- the second of three lines is blank, so the number two is passed over
  have hlined : Lined 1 [(1, "1"), (3, "\"a\"")] "1\r\n \n\"a\"".toList := by
    have hlast : Lined 3 [(3, "\"a\"")] "\"a\"".toList := .lastText ⟨by decide, by decide +kernel⟩
    have hblank : Lined 2 [(3, "\"a\"")] ([' '] ++ (['\n'] ++ "\"a\"".toList)) :=
      .blank ⟨by decide, by decide +kernel⟩ (.inl rfl) hlast
    exact .text ⟨by decide, by decide +kernel⟩ (.inr rfl) hblank
  have hall : ∀ entry ∈ [(1, "1"), (3, "\"a\"")], HoldsDocument entry.2 := by
    intro entry he
    simp only [List.mem_cons, List.not_mem_nil, or_false] at he
    rcases he with rfl | rfl
    · exact ⟨.number (.integer 1), by decide +kernel⟩
    · exact ⟨.string "a", by decide +kernel⟩
  obtain ⟨lines, files, hlineDocuments, hfileDocuments, hvalues, hlabels, -⟩ :=
    (linewise_agrees false hschema hlines hfile hlined hfiles (.cons hfirst (.cons hsecond .nil))).1 hall
  exact ⟨lines, files, hlineDocuments, hfileDocuments, hvalues, hlabels⟩

end JsonShape
