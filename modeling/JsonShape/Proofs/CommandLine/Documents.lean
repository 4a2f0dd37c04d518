import JsonShape.Proofs.CommandLine.Sources

/-!
# The documents in files

A source is cut into sheets, the texts that are to hold one document each: the whole text of the file, or each
of its lines that is not blank.  The documents of a check are what its pointer selects in the documents of the
sheets, one by one (`loadDocuments_eq_ok_iff`), and there are none at all if only one of the sheets holds none.
-/

namespace JsonShape

/-- The text of a file is what was encoded in it. -/
theorem FileTree.readText_of_trail {tree : FileTree} {path name text : String} {trail : Trail}
    (h : tree.trail path = .ok ((name, .file text.toUTF8) :: trail)) : tree.readText path = .ok text := by
  have hbytes : String.fromUTF8? text.toUTF8 = some text := dif_pos text.isValidUTF8
  rw [FileTree.readText, h]
  simp only [bind, Except.bind, Trail.last, hbytes]

/-- A text that holds a document. -/
def HoldsDocument (text : String) : Prop := ∃ whole, Json.ofText text = .ok whole

/-- A text that is to hold one document, and the label of that document. -/
structure Sheet where
  label : String
  text : String

namespace Sheet

/-- The document is what the pointer selects in the document of the sheet, under the sheet's label. -/
def Holds (pointer : Option String) (sheet : Sheet) (document : Document) : Prop :=
  document.label = sheet.label ∧
    ∃ whole, Json.ofText sheet.text = .ok whole ∧ document.value = selected pointer whole

/-- The sheet holds a document. -/
def Legible (sheet : Sheet) : Prop := HoldsDocument sheet.text

/-- Reads the document of a sheet. -/
def read (pointer : Option String) (sheet : Sheet) : Except Trouble Document := do
  let whole ← documentOf sheet.label sheet.text
  return ⟨sheet.label, selected pointer whole⟩

/-- The sheets of some lines, of which the first has the given number; blank lines are none. -/
def ofLines (label : String) (number : Nat) : List (List Char) → List Sheet
  | [] => []
  | line :: rest =>
    if line.all isBlank then ofLines label (number + 1) rest
    else ⟨label ++ ":" ++ toString number, String.ofList line⟩ :: ofLines label (number + 1) rest

/-- The sheets of a source whose file has the given text. -/
def ofText (linewise : Bool) (source : Source) (text : String) : List Sheet :=
  if linewise then ofLines source.label 1 (linesOf text.toList) else [⟨source.label, text⟩]

/-- The sheets of some files, in the order of the files and of the lines in each. -/
inductive OfFiles (tree : FileTree) (linewise : Bool) : List Source → List Sheet → Prop
  | nil : OfFiles tree linewise [] []
  | cons {source : Source} {text : String} {sources : List Source} {sheets : List Sheet}
      (h : tree.readText source.path = .ok text) (hs : OfFiles tree linewise sources sheets) :
      OfFiles tree linewise (source :: sources) (ofText linewise source text ++ sheets)

end Sheet

theorem documentOf_eq_ok_iff {label text : String} {document : Json} :
    documentOf label text = .ok document ↔ Json.ofText text = .ok document := explain_eq_ok_iff

theorem documentOf_eq_error (label : String) {text : String} (h : ¬ HoldsDocument text) :
    ∃ causes, documentOf label text = .error (("failed to parse JSON (" ++ label ++ ")") :: causes) := by
  rw [documentOf, explain]
  cases hread : Json.ofText text with
  | ok document => exact absurd ⟨document, hread⟩ h
  | error misread => exact ⟨_, rfl⟩

namespace Sheet

theorem read_eq_ok_iff {pointer : Option String} {sheet : Sheet} {document : Document} :
    sheet.read pointer = .ok document ↔ sheet.Holds pointer document := by
  rw [read, bind_eq_ok_iff]
  constructor
  · rintro ⟨whole, hwhole, h⟩
    cases h
    exact ⟨rfl, whole, documentOf_eq_ok_iff.mp hwhole, rfl⟩
  · obtain ⟨label, value⟩ := document
    rintro ⟨rfl, whole, hwhole, rfl⟩
    exact ⟨whole, documentOf_eq_ok_iff.mpr hwhole, rfl⟩

theorem read_eq_error (pointer : Option String) {sheet : Sheet} (h : ¬ sheet.Legible) :
    ∃ causes, sheet.read pointer = .error (("failed to parse JSON (" ++ sheet.label ++ ")") :: causes) := by
  obtain ⟨causes, herror⟩ := documentOf_eq_error sheet.label h
  exact ⟨causes, by rw [read, herror]; rfl⟩

/-- All sheets have documents if each of them is legible. -/
theorem exists_holds_iff {pointer : Option String} {sheets : List Sheet} :
    (∃ documents, List.Forall₂ (Holds pointer) sheets documents) ↔ ∀ sheet ∈ sheets, sheet.Legible := by
  constructor
  · rintro ⟨documents, h⟩ sheet hs
    obtain ⟨document, -, -, whole, hwhole, -⟩ := exists_of_forall₂ h hs
    exact ⟨whole, hwhole⟩
  · intro h
    have hheld : ∀ sheet ∈ sheets, ∃ document, Holds pointer sheet document := by
      intro sheet hs
      obtain ⟨whole, hwhole⟩ := h sheet hs
      exact ⟨⟨sheet.label, selected pointer whole⟩, rfl, whole, hwhole, rfl⟩
    exact exists_forall₂ hheld

end Sheet

/-- The lines of a file are read sheet by sheet. -/
theorem documentsOfLines_eq_mapM (pointer : Option String) (label : String) (number : Nat)
    (lines : List (List Char)) :
    documentsOfLines pointer label number lines =
      (Sheet.ofLines label number lines).mapM (Sheet.read pointer) := by
  induction lines generalizing number with
  | nil => rfl
  | cons line rest ih =>
    rw [documentsOfLines, Sheet.ofLines]
    by_cases hblank : line.all isBlank = true
    · rw [if_pos hblank, if_pos hblank, ih]
    · rw [if_neg hblank, if_neg hblank, List.mapM_cons, Sheet.read, ← ih]
      simp only [bind_assoc, pure_bind]

theorem documentsOfSource_eq_ok_iff {tree : FileTree} {linewise : Bool} {pointer : Option String}
    {source : Source} {documents : List Document} :
    documentsOfSource tree linewise pointer source = .ok documents ↔ ∃ text,
      tree.readText source.path = .ok text ∧
        List.Forall₂ (Sheet.Holds pointer) (Sheet.ofText linewise source text) documents := by
  have hread : ∀ text, (if linewise then
        documentsOfLines pointer source.label 1 (linesOf text.toList)
      else do
        let document ← documentOf source.path text
        return [⟨source.label, selected pointer document⟩]) = .ok documents ↔
      List.Forall₂ (Sheet.Holds pointer) (Sheet.ofText linewise source text) documents := by
    intro text
    cases linewise with
    | true =>
      rw [if_pos rfl, documentsOfLines_eq_mapM, mapM_eq_ok_iff]
      simp only [Sheet.read_eq_ok_iff]
      rfl
    | false =>
      -- a file that is one document is named by its path if it holds none, so it is not read as its sheet is
      rw [if_neg (by decide), bind_eq_ok_iff]
      simp only [documentOf_eq_ok_iff]
      constructor
      · rintro ⟨whole, hwhole, h⟩
        cases h
        exact .cons ⟨rfl, whole, hwhole, rfl⟩ .nil
      · intro h
        obtain ⟨⟨label, value⟩, _, ⟨rfl, whole, hwhole, rfl⟩, hnil, rfl⟩ := List.forall₂_cons_left_iff.mp h
        obtain rfl := List.forall₂_nil_left_iff.mp hnil
        exact ⟨whole, hwhole, rfl⟩
  rw [documentsOfSource, bind_eq_ok_iff]
  simp only [explain_eq_ok_iff, hread]

/-- The documents of some files are those of their sheets. -/
theorem documents_of_sources {tree : FileTree} {linewise : Bool} {pointer : Option String}
    {sources : List Source} {documents : List Document} :
    (∃ blocks, List.Forall₂ (fun source block => documentsOfSource tree linewise pointer source = .ok block)
        sources blocks ∧ documents = blocks.flatten) ↔
      ∃ sheets, Sheet.OfFiles tree linewise sources sheets ∧
        List.Forall₂ (Sheet.Holds pointer) sheets documents := by
  -- the documents are cut after those of the first file
  induction sources generalizing documents with
  | nil =>
    constructor
    · rintro ⟨blocks, hblocks, rfl⟩
      obtain rfl := List.forall₂_nil_left_iff.mp hblocks
      exact ⟨[], .nil, .nil⟩
    · rintro ⟨sheets, hsheets, hholds⟩
      cases hsheets
      obtain rfl := List.forall₂_nil_left_iff.mp hholds
      exact ⟨[], .nil, rfl⟩
  | cons source rest ih =>
    constructor
    · rintro ⟨_, hall, rfl⟩
      obtain ⟨block, blocks, hblock, hblocks, rfl⟩ := List.forall₂_cons_left_iff.mp hall
      obtain ⟨text, htext, hholds⟩ := documentsOfSource_eq_ok_iff.mp hblock
      obtain ⟨sheets, hsheets, hothers⟩ := ih.mp ⟨blocks, hblocks, rfl⟩
      exact ⟨_, .cons htext hsheets, List.rel_append hholds hothers⟩
    · rintro ⟨_, hsheets, hholds⟩
      cases hsheets with
      | @cons _ text _ sheets htext hsheets =>
        obtain ⟨block, others, rfl, hfirst, hrest⟩ := exists_append_of_forall₂ hholds
        obtain ⟨blocks, hblocks, rfl⟩ := ih.mpr ⟨sheets, hsheets, hrest⟩
        exact ⟨block :: blocks, .cons (documentsOfSource_eq_ok_iff.mpr ⟨text, htext, hfirst⟩) hblocks, rfl⟩

/-- **The documents of a check** are those of all sheets in the files that its inputs name. -/
theorem loadDocuments_eq_ok_iff {tree : FileTree} {linewise : Bool} {pointer : Option String}
    {inputs : List String} {documents : List Document} :
    loadDocuments tree linewise pointer inputs = .ok documents ↔ ∃ sources sheets,
      expandInputs tree inputs = .ok sources ∧ Sheet.OfFiles tree linewise sources sheets ∧
        List.Forall₂ (Sheet.Holds pointer) sheets documents := by
  rw [loadDocuments, bind_eq_ok_iff]
  constructor
  · rintro ⟨sources, hsources, h⟩
    obtain ⟨blocks, hblocks, h⟩ := bind_eq_ok_iff.mp h
    cases h
    obtain ⟨sheets, hsheets⟩ := documents_of_sources.mp ⟨blocks, mapM_eq_ok_iff.mp hblocks, rfl⟩
    exact ⟨sources, sheets, hsources, hsheets⟩
  · rintro ⟨sources, sheets, hsources, hsheets⟩
    obtain ⟨blocks, hblocks, rfl⟩ := documents_of_sources.mpr ⟨sheets, hsheets⟩
    exact ⟨sources, hsources, bind_eq_ok_iff.mpr ⟨blocks, mapM_eq_ok_iff.mpr hblocks, rfl⟩⟩

/-- A file whose text can be read, with a document on every sheet. -/
def FileTree.Loads (tree : FileTree) (linewise : Bool) (source : Source) : Prop :=
  ∃ text, tree.readText source.path = .ok text ∧
    ∀ sheet ∈ Sheet.ofText linewise source text, sheet.Legible

/-- Documents are there just if every input names something and every file of that loads. -/
theorem exists_loadDocuments_iff {tree : FileTree} {linewise : Bool} (pointer : Option String)
    {inputs : List String} :
    (∃ documents, loadDocuments tree linewise pointer inputs = .ok documents) ↔
      ∃ sources, expandInputs tree inputs = .ok sources ∧
        ∀ source ∈ sources, tree.Loads linewise source := by
  -- whether a file loads does not depend on what the pointer selects
  have hload : ∀ source, (∃ block, documentsOfSource tree linewise pointer source = .ok block) ↔
      tree.Loads linewise source := by
    intro source
    simp only [documentsOfSource_eq_ok_iff]
    constructor
    · rintro ⟨block, text, htext, hholds⟩
      exact ⟨text, htext, Sheet.exists_holds_iff.mp ⟨block, hholds⟩⟩
    · rintro ⟨text, htext, hlegible⟩
      obtain ⟨block, hholds⟩ := Sheet.exists_holds_iff.mpr hlegible
      exact ⟨block, text, htext, hholds⟩
  simp only [loadDocuments_eq_ok_iff]
  constructor
  · rintro ⟨documents, sources, sheets, hsources, hsheets⟩
    obtain ⟨blocks, hblocks, -⟩ := documents_of_sources.mpr ⟨sheets, hsheets⟩
    refine ⟨sources, hsources, fun source hs => (hload source).mp ?_⟩
    obtain ⟨block, -, hblock⟩ := exists_of_forall₂ hblocks hs
    exact ⟨block, hblock⟩
  · rintro ⟨sources, hsources, h⟩
    obtain ⟨blocks, hblocks⟩ := exists_forall₂ fun source hs => (hload source).mpr (h source hs)
    obtain ⟨sheets, hsheets⟩ := documents_of_sources.mp ⟨blocks, hblocks, rfl⟩
    exact ⟨_, sources, sheets, hsources, hsheets⟩

end JsonShape
