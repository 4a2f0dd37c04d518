import Mathlib.Logic.Function.Iterate
import JsonShape.Proofs.CommandLine.Entries
import JsonShape.Proofs.CommandLine.Runs
import JsonShape.Proofs.Validation.Parse

/-!
# The report in JSON

The report of a check in JSON is one line for each document (`report_lossless`).  The line is read as an object
that tells the outcome of the document (`Tells`): its label, whatever characters are in it, whether the document
passed, and, just if it did not, its mismatches.

A line has two levels around the paths of its mismatches, and one around a value that is emitted.  So a document may
have as many levels as the reader allows, and the line that its value is emitted on one too many
(`emitted_value_unread`); no other line is too deep.
-/

namespace JsonShape

open Json

/-! ## Lines -/

/-- What is read for a member of an object in compact text: under the same name, with as many levels. -/
def ReadsEntry (entry read : String × Json) : Prop :=
  read.1 = entry.1 ∧ Spells read.2 (Layout.tight.text 1 entry.2) ∧ read.2.nesting = entry.2.nesting

theorem ReadsEntry.of_legible (name : String) {document : Json} (h : ∀ n ∈ document.numbers, n.Legible) :
    ReadsEntry (name, document) (name, document) :=
  ⟨rfl, Layout.tight.spells_text 1 h, rfl⟩

theorem exists_readsEntry (name : String) {document : Json} (h : ∀ n ∈ document.numbers, n.FitsWord) :
    ∃ read, ReadsEntry (name, document) (name, read) := by
  obtain ⟨read, hread, hnesting⟩ := Layout.tight.exists_spells_text 1 h
  exact ⟨read, rfl, hread, hnesting⟩

/-- The compact text of an object whose members are read one by one. -/
theorem compact_decides {entries read : List (String × Json)} (h : List.Forall₂ ReadsEntry entries read)
    (hnames : (Members.names read).Nodup) :
    Decides (Json.ofText (Json.object entries).compact) (.object (mergedMembers read))
      ((Json.object entries).nesting ≤ nestingLimit) fun bad => bad.fault = .tooDeep := by
  have hmembers := Layout.tight.spellsMembers_membersText 1 (h.imp fun _ _ hr => ⟨hr.1, hr.2.1⟩) true
    (Layout.tight.blank_closing entries.isEmpty 0)
  have hspells : Spells (.object read) (Json.object entries).compact.toList := by
    rw [Layout.text_tight _ 0]
    exact .object hmembers
  have hnesting : (Json.object read).nesting = (Json.object entries).nesting :=
    congrArg (· + 1) (Layout.nestingMembers_congr (h.imp fun _ _ hr => hr.2.2))
  have hdecides := Json.ofText_decides hspells.whole
  rwa [merged_object hnames, hnesting] at hdecides

namespace DocumentOutcome

/-- A line is too deep just for the value on it. -/
theorem nesting_toJson_le_iff (o : DocumentOutcome) (emit : Bool) :
    (o.toJson emit).nesting ≤ nestingLimit ↔ ∀ value ∈ o.emitted emit, value.nesting < nestingLimit := by
  unfold toJson emitted
  cases o.result with
  | ok value =>
    cases emit with
    | true =>
      simp only [if_pos, nesting, nestingMembers, List.cons_append, List.nil_append, Option.mem_def,
        Option.some.injEq, forall_eq']
      omega
    | false => simp [nesting, nestingMembers, nestingLimit]
  | error report =>
    have hreport := report.nesting_toJson_le
    have hline : nesting (.object [("document", .string o.label), ("valid", .bool false),
        ("errors", report.toJson)]) ≤ nestingLimit := by
      simp only [nesting, nestingMembers, nestingLimit]
      omega
    simp [hline]

/-- The members that are read of an outcome tell it. -/
theorem exists_tells {o : DocumentOutcome} (h : o.FitsWord) (emit : Bool) : ∃ entries read,
    o.toJson emit = .object entries ∧ List.Forall₂ ReadsEntry entries read ∧
      (Members.names read).Nodup ∧ Tells (mergedMembers read) o := by
  have hlabel : ReadsEntry ("document", .string o.label) ("document", .string o.label) :=
    .of_legible _ (by simp [Json.numbers])
  have hverdict : ∀ valid, ReadsEntry ("valid", .bool valid) ("valid", .bool valid) :=
    fun valid => .of_legible _ (by simp [Json.numbers])
  cases hresult : o.result with
  | ok value =>
    cases emit with
    | true =>
      -- a double in the value may be read as another one, and so the value as another value
      have hvalue : ∀ n ∈ (value.getD .null).numbers, n.FitsWord := by
        rwa [FitsWord, hresult] at h
      obtain ⟨read, hread⟩ := exists_readsEntry "value" hvalue
      exact ⟨_, _, by simp [toJson, hresult], .cons hlabel (.cons (hverdict true) (.cons hread .nil)),
        by simp [Members.names], tells_passed hresult rfl⟩
    | false =>
      exact ⟨_, _, by simp [toJson, hresult], .cons hlabel (.cons (hverdict true) .nil),
        by simp [Members.names], tells_passed hresult rfl⟩
  | error report =>
    have hfits : report.FitsWord := h.report hresult
    have hreport : Report.ofText report.toJson.merged.compact = .ok report := by
      rw [Report.merged_toJson]
      exact Report.ofText_compact hfits
    exact ⟨_, _, by simp [toJson, hresult],
      .cons hlabel (.cons (hverdict false) (.cons (.of_legible "errors" hfits.legible) .nil)),
      by simp [Members.names], tells_failed hresult hreport⟩

/-- The line of an outcome is read as an object that tells it, unless the value on it has too many levels. -/
theorem line_decides {o : DocumentOutcome} (h : o.FitsWord) (emit : Bool) : ∃ members, Tells members o ∧
    Decides (Json.ofText (o.toJson emit).compact) (.object members)
      (∀ value ∈ o.emitted emit, value.nesting < nestingLimit) fun bad => bad.fault = .tooDeep := by
  obtain ⟨entries, read, hjson, hread, hnames, htells⟩ := exists_tells h emit
  refine ⟨mergedMembers read, htells, ?_⟩
  have hdecides := compact_decides hread hnames
  rw [← hjson] at hdecides
  exact hdecides.of_iff (nesting_toJson_le_iff o emit)

end DocumentOutcome

/-- **The report in JSON is lossless, line by line.**  It is one line for each outcome, in their order, and each
line is read as an object that tells the outcome, unless there is a value on it with as many levels as the reader
allows: then the line has one level too many, and is refused for it. -/
theorem report_lossless (color : Bool) {options : CheckOptions} (hformat : options.format = .json)
    {outcomes : List DocumentOutcome} (h : ∀ o ∈ outcomes, o.FitsWord) (console : Console) :
    ∃ lines : List String,
      (report color options outcomes).on console =
        (.ok (), { console with printed := console.printed ++ String.join (lines.map (· ++ "\n")) }) ∧
      (∀ line ∈ lines, Unbroken line.toList) ∧
      List.Forall₂ (fun o line =>
        ((∀ value ∈ o.emitted options.emit, value.nesting < nestingLimit) →
          ∃ members, Json.ofText line = .ok (.object members) ∧ Tells members o) ∧
        ∀ value ∈ o.emitted options.emit, nestingLimit ≤ value.nesting →
          ∃ bad, Json.ofText line = .error bad ∧ bad.fault = .tooDeep) outcomes lines := by
  refine ⟨outcomes.map fun o => (o.toJson options.emit).compact, ?_, ?_, ?_⟩
  · have hentries : outcomes.map (DocumentOutcome.entry color options) =
        (outcomes.map fun o => (o.toJson options.emit).compact).map (· ++ "\n") := by
      rw [List.map_map]
      refine List.map_congr_left fun o _ => ?_
      rw [DocumentOutcome.entry, hformat]
      rfl
    rw [on_report, hentries]
  · intro line hline
    obtain ⟨o, -, rfl⟩ := List.mem_map.mp hline
    exact unbroken_compact (o.toJson options.emit)
  · rw [List.forall₂_map_right_iff, List.forall₂_same]
    intro o ho
    obtain ⟨members, htells, hread, hdeep⟩ := DocumentOutcome.line_decides (h o ho) options.emit
    -- the line is read just if the value on it leaves a level for the object around it
    refine ⟨fun hflat => ⟨members, hread hflat, htells⟩, fun value hvalue hlevels => ?_⟩
    exact hdeep fun hflat => Nat.not_lt.mpr hlevels (hflat value hvalue)

/-- A report in JSON with the values of documents. -/
def emittingOptions : CheckOptions := ⟨"schema.json", [], false, none, 64, .json, true⟩

/-- A document that passes, under a label with a quotation mark and a line break, and one that does not. -/
def mixedOutcomes : List DocumentOutcome :=
  [⟨"a\"\n", .ok (some (.array [.number (.integer (-7))]))⟩,
   ⟨"b.json", .error [⟨.invalidType, .string, .missing, [.field "tags", .index 2]⟩]⟩]

/-- A console over no files. -/
def bareConsole : Console := Console.over ⟨.directory [], []⟩

theorem report_lossless_sample : (∀ o ∈ mixedOutcomes, o.FitsWord) ∧
    (report false emittingOptions mixedOutcomes).on bareConsole = (.ok (), { bareConsole with printed :=
      "\x7b\"document\":\"a\\\"\\n\",\"valid\":true,\"value\":[-7]\x7d\n" ++
      "\x7b\"document\":\"b.json\",\"valid\":false,\"errors\":[\x7b\"code\":\"invalid_type\"," ++
      "\"expected\":\"string\",\"received\":\"missing\",\"path\":[\"tags\",2]\x7d]\x7d\n" }) ∧
    ∃ lines : List String,
      (report false emittingOptions mixedOutcomes).on bareConsole =
        (.ok (), { bareConsole with printed := bareConsole.printed ++ String.join (lines.map (· ++ "\n")) }) ∧
      (∀ line ∈ lines, Unbroken line.toList) ∧
      List.Forall₂ (fun o line => ∃ members, Json.ofText line = .ok (.object members) ∧ Tells members o)
        mixedOutcomes lines := by
  have hfits : ∀ o ∈ mixedOutcomes, o.FitsWord := by
    simp [mixedOutcomes, DocumentOutcome.FitsWord, Json.numbers, numbersOfItems, Number.FitsWord]
  have hflat : ∀ o ∈ mixedOutcomes, ∀ value ∈ o.emitted emittingOptions.emit, value.nesting < nestingLimit := by
    simp [mixedOutcomes, DocumentOutcome.emitted, emittingOptions, nesting, nestingItems, nestingLimit]
  have hjson : emittingOptions.format = .json := rfl
  obtain ⟨lines, hprinted, hlines, hread⟩ := report_lossless false hjson hfits bareConsole
  have htext : String.join (mixedOutcomes.map (DocumentOutcome.entry false emittingOptions)) =
      "\x7b\"document\":\"a\\\"\\n\",\"valid\":true,\"value\":[-7]\x7d\n" ++
      "\x7b\"document\":\"b.json\",\"valid\":false,\"errors\":[\x7b\"code\":\"invalid_type\"," ++
      "\"expected\":\"string\",\"received\":\"missing\",\"path\":[\"tags\",2]\x7d]\x7d\n" := by
    decide +kernel
  refine ⟨hfits, ?_, lines, hprinted, hlines, ?_⟩
  · rw [on_report, htext]
    rfl
  · rw [List.forall₂_iff_get] at hread ⊢
    exact ⟨hread.1, fun i hi hi' => (hread.2 i hi hi').1 (hflat _ (List.getElem_mem hi))⟩

/-! ## Values that are too deep for a line -/

/-- The schema of an empty record in so many arrays. -/
def Schema.inArrays (n : Nat) : Schema := Schema.array^[n] (.construct [])

/-- An empty object in so many arrays. -/
def Json.inArrays (n : Nat) : Json := (fun item => .array [item])^[n] (.object [])

theorem Schema.inArrays_succ (n : Nat) : Schema.inArrays (n + 1) = .array (Schema.inArrays n) :=
  Function.iterate_succ_apply' _ n _

theorem Json.inArrays_succ (n : Nat) : Json.inArrays (n + 1) = .array [Json.inArrays n] :=
  Function.iterate_succ_apply' _ n _

theorem Json.nesting_inArrays (n : Nat) : (Json.inArrays n).nesting = n + 1 := by
  induction n with
  | zero => rfl
  | succ n ih => rw [Json.inArrays_succ, nesting, nestingItems, nestingItems, ih, Nat.max_zero]

theorem Json.numbers_inArrays (n : Nat) : (Json.inArrays n).numbers = [] := by
  induction n with
  | zero => rfl
  | succ n ih => rw [Json.inArrays_succ, numbers, numbersOfItems, numbersOfItems, ih, List.append_nil]

theorem Json.merged_inArrays (n : Nat) : (Json.inArrays n).merged = Json.inArrays n := by
  induction n with
  | zero => rfl
  | succ n ih => rw [Json.inArrays_succ, merged, mergedItems, mergedItems, ih]

/-- The text of the document is read, as long as it has no more levels than are allowed. -/
theorem Json.ofText_inArrays {n : Nat} (h : n < nestingLimit) :
    Json.ofText (Json.inArrays n).compact = .ok (Json.inArrays n) := by
  have hspells : Spells (Json.inArrays n) (Json.inArrays n).compact.toList := by
    rw [Layout.text_tight _ 0]
    refine Layout.tight.spells_text 0 fun m hm => ?_
    rw [Json.numbers_inArrays] at hm
    cases hm
  have hlevels : (Json.inArrays n).nesting ≤ nestingLimit := by rwa [Json.nesting_inArrays]
  rw [(Json.ofText_decides hspells.whole).1 hlevels, Json.merged_inArrays]

/-- The schema lets the document through as it is. -/
theorem Schema.parse_inArrays (n : Nat) :
    (Schema.inArrays n).parse (some (Json.inArrays n)) (Schema.inArrays n).depth =
      .ok (some (Json.inArrays n)) := by
  have hconforms : Conforms (Schema.inArrays n) (some (Json.inArrays n)) ∧
      (Schema.inArrays n).prune (Json.inArrays n) = Json.inArrays n := by
    induction n with
    | zero => exact ⟨.construct (by simp), rfl⟩
    | succ n ih =>
      obtain ⟨hitem, hprune⟩ := ih
      rw [Schema.inArrays_succ, Json.inArrays_succ]
      refine ⟨.array (List.forall_mem_singleton.mpr hitem), ?_⟩
      simp [Schema.prune, hprune]
  refine (parse_eq_ok_iff_conforms (Nat.le_refl _)).mpr ⟨hconforms.1, ?_⟩
  rw [Option.map_some, hconforms.2]

/-- What becomes of the document when the cap is the depth of the schema. -/
def outcomeInArrays (n : Nat) : DocumentOutcome :=
  .ofDocument (Schema.inArrays n) (Schema.inArrays n).depth ⟨"a.json", some (Json.inArrays n)⟩

theorem result_outcomeInArrays (n : Nat) : (outcomeInArrays n).result = .ok (some (Json.inArrays n)) :=
  Schema.parse_inArrays n

theorem emitted_outcomeInArrays (n : Nat) : (outcomeInArrays n).emitted true = some (Json.inArrays n) := by
  rw [DocumentOutcome.emitted, result_outcomeInArrays]
  rfl

theorem fitsWord_outcomeInArrays (n : Nat) : (outcomeInArrays n).FitsWord := by
  rw [DocumentOutcome.FitsWord, result_outcomeInArrays]
  simp [Json.numbers_inArrays]

/-- The only line of a report on one outcome is that of the outcome. -/
theorem line_of_report {o : DocumentOutcome} {line : String}
    (h : (report false emittingOptions [o]).on bareConsole =
      (.ok (), { bareConsole with printed := bareConsole.printed ++ String.join ([line].map (· ++ "\n")) })) :
    line = (o.toJson true).compact := by
  rw [on_report] at h
  have hprinted := congrArg Console.printed (Prod.mk.inj h).2
  simpa [bareConsole, Console.over, DocumentOutcome.entry, emittingOptions] using hprinted.symm

/-- The line is not read that an emitted value with too many levels is on. -/
theorem unread_of_nesting {o : DocumentOutcome} (h : o.FitsWord) {value : Json} (hv : value ∈ o.emitted true)
    (hdeep : nestingLimit ≤ value.nesting) (document : Json) :
    Json.ofText (o.toJson true).compact ≠ .ok document := by
  obtain ⟨members, -, -, herror⟩ := DocumentOutcome.line_decides h true
  obtain ⟨bad, hbad, -⟩ := herror fun hflat => Nat.not_lt.mpr hdeep (hflat value hv)
  rw [hbad]
  exact fun he => nomatch he

theorem unread_outcomeInArrays {n : Nat} (h : nestingLimit ≤ n + 1) : ¬ ∃ lines : List String,
    (report false emittingOptions [outcomeInArrays n]).on bareConsole =
      (.ok (), { bareConsole with printed := bareConsole.printed ++ String.join (lines.map (· ++ "\n")) }) ∧
    List.Forall₂ (fun o line => ∃ members, Json.ofText line = .ok (.object members) ∧ Tells members o)
      [outcomeInArrays n] lines := by
  rintro ⟨lines, hprinted, hlines⟩
  obtain ⟨line, others, ⟨members, hread, -⟩, hnil, rfl⟩ := List.forall₂_cons_left_iff.mp hlines
  obtain rfl := List.forall₂_nil_left_iff.mp hnil
  rw [line_of_report hprinted] at hread
  have hdeep : nestingLimit ≤ (Json.inArrays n).nesting := h.trans_eq (Json.nesting_inArrays n).symm
  exact unread_of_nesting (fitsWord_outcomeInArrays n) (emitted_outcomeInArrays n) hdeep _ hread

/-- A document of 127 levels is read and passes, and the line that its value is emitted on is not read. -/
theorem emitted_value_unread :
    Json.ofText (Json.inArrays 126).compact = .ok (Json.inArrays 126) ∧ (outcomeInArrays 126).passed = true ∧
      ¬ ∃ lines : List String,
        (report false emittingOptions [outcomeInArrays 126]).on bareConsole =
          (.ok (), { bareConsole with printed := bareConsole.printed ++ String.join (lines.map (· ++ "\n")) }) ∧
        List.Forall₂ (fun o line => ∃ members, Json.ofText line = .ok (.object members) ∧ Tells members o)
          [outcomeInArrays 126] lines :=
  ⟨Json.ofText_inArrays (by decide), DocumentOutcome.passed_of_ok (result_outcomeInArrays 126),
    unread_outcomeInArrays (Nat.le_refl nestingLimit)⟩

end JsonShape
