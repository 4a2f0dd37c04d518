import JsonShape.Mismatch.Reader
import JsonShape.Proofs.Json.Reading

/-!
# Reports are read from their documents

A report is read from every text of its document, whatever the blanks, the escapes and the way its indices are
written (`Report.ofText_spelled`).  `ReadAs` says so of a reader and a document, from the words and steps over
paths and mismatches to the whole report.
-/

namespace JsonShape

/-- The reader takes every text of the document, with blanks before it, as the result. -/
def ReadAs {α : Type} (read : Reader α) (document : Json) (result : α) : Prop :=
  ∀ blanks text after, Blank blanks → Spells document text → AfterValue after →
    read (blanks ++ (text ++ after)) = .ok (result, after)

theorem ReadAs.reads {α : Type} {read : Reader α} {document : Json} {result : α}
    (h : ReadAs read document result) (text : List Char) (ht : Spells document text) :
    Reads read text result True :=
  fun after ha => .of_ok trivial (h [] text after blank_nil ht ha)

/-! ## Words and steps -/

theorem readAs_named {α : Type} {ofName? : String → Option α} {word : String} {result : α}
    (h : ofName? word = some result) (known : List String) :
    ReadAs (namedOrTagged ofName? known) (.string word) result := by
  intro blanks text after hb ht _
  cases ht with
  | string hbody =>
    rw [List.cons_append, namedOrTagged, skipBlanks_append hb, skipBlanks_cons (by simp [IsBlank])]
    simp [named, stringAfterQuote_of_spellsBody hbody, h, bind, Except.bind, pure, Except.pure]

theorem readAs_complaint (complaint : Complaint) : ReadAs complaintWord (.string complaint.name) complaint :=
  readAs_named (Complaint.ofName?_name complaint) _

theorem readAs_kind (k : Kind) : ReadAs kindWord (.string k.name) k := readAs_named (Kind.ofName?_name k) _

theorem Step.ofJson?_toJson (s : Step) : Step.ofJson? s.toJson = some s := by
  cases s with
  | field name => rfl
  | index i => simp [toJson, ofJson?]

theorem readAs_step (levels : Nat) (s : Step) : ReadAs (step levels) s.toJson s := by
  intro blanks text after hb ht ha
  have hflat : s.toJson.nesting ≤ levels := by cases s <;> exact Nat.zero_le levels
  have hread := (value_spelled ht levels after fun _ => ha).1 hflat
  rw [← value_append hb] at hread
  rw [step, hread]
  simp [Step.ofJson?_toJson, bind, Except.bind, pure, Except.pure]

/-! ## Arrays and objects -/

theorem readAs_list {α : Type} {read : Reader α} {elements : List Json} {results : List α}
    (h : List.Forall₂ (ReadAs read) elements results) : ReadAs (listOf read) (.array elements) results := by
  intro blanks text after hb ht _
  cases ht with
  | @array _ inside hs =>
    have hlength := hs.length_le
    have hreads : List.Forall₂ (fun item result => ∀ text, Spells item text → Reads read text result True)
        elements results := List.Forall₂.imp (fun _ _ => ReadAs.reads) h
    have hitems := itemsFrom_results read (fun _ => True) hreads ((inside ++ after).length + 1)
      (by simp only [List.length_append]; omega) 0 hs after
    rw [List.cons_append, listOf, skipBlanks_append hb, skipBlanks_cons (by simp [IsBlank])]
    exact hitems.1 fun _ _ => trivial

theorem readAs_path (levels : Nat) (path : Path) :
    ReadAs (pathWithin levels) (.array (path.map Step.toJson)) path :=
  readAs_list (List.forall₂_map_left_iff.mpr (List.forall₂_same.mpr fun s _ => readAs_step levels s))

/-- A part is read after its name and the colon. -/
theorem reads_part {α : Type} (read : Reader α) (make : α → Part) {before : List String} {name : String}
    (hpart : ∀ text, Part.read before name text =
      (do let rest ← colon text; (read rest).map fun (result, rest) => (make result, rest)))
    {document : Json} {result : α} (h : ReadAs read document result) (gap space text : List Char)
    (hg : Blank gap) (hs : Blank space) (ht : Spells document text) :
    Reads (Part.read before name) (gap ++ ':' :: (space ++ text)) (make result) True := by
  intro after ha
  have htext : gap ++ ':' :: (space ++ text) ++ after = gap ++ ':' :: (space ++ (text ++ after)) := by simp
  have hread := h space text after hs ht ha
  refine .of_ok trivial ?_
  rw [hpart, htext, colon_spelled hg]
  show (read (space ++ (text ++ after))).map _ = _
  rw [hread]
  rfl

namespace Mismatch

/-- The part of a mismatch that a name stands for. -/
def part (m : Mismatch) (name : String) : Part :=
  match name with
  | "code" => .complaint m.complaint
  | "expected" => .expected m.expected
  | "received" => .received m.received
  | "path" => .path m.path
  | _ => .other

/-- Each part is read after the ones before it. -/
theorem along_part (m : Mismatch) : Along (fun names member => ∀ gap space text, Blank gap → Blank space →
    Spells member.2 text →
      Reads (Part.read names member.1) (gap ++ ':' :: (space ++ text)) (m.part member.1) True)
    [] m.toJson.members :=
  ⟨reads_part complaintWord .complaint (fun _ => by simp [Part.read, Part.names]) (readAs_complaint m.complaint),
   reads_part kindWord .expected (fun _ => by simp [Part.read, Part.names]) (readAs_kind m.expected),
   reads_part kindWord .received (fun _ => by simp [Part.read, Part.names]) (readAs_kind m.received),
   reads_part (pathWithin levelsBelowPath) .path (fun _ => by simp [Part.read, Part.names]) (readAs_path levelsBelowPath m.path), trivial⟩

end Mismatch

theorem readAs_mismatch (m : Mismatch) : ReadAs Mismatch.read m.toJson m := by
  intro blanks text after hb ht _
  unfold Mismatch.toJson at ht
  cases ht with
  | @object entries inside hs =>
    have hlength := hs.length_le
    have hfuel : m.toJson.members.length < (inside ++ after).length + 1 := by
      rw [List.length_append]
      exact Nat.lt_succ_of_lt (Nat.lt_add_right _ hlength)
    have hmembers := (membersFrom_made Part.read (fun _ => True) (fun member => m.part member.1)
      ((inside ++ after).length + 1) m.along_part hfuel hs after).1
      fun _ _ => trivial
    rw [List.cons_append, Mismatch.read, skipBlanks_append hb, skipBlanks_cons (by simp [IsBlank])]
    show Mismatch.inObject (inside ++ after) = _
    rw [Mismatch.inObject, members, hmembers]
    -- the four parts, each under its name, make up the mismatch
    rfl

/-! ## Documents of reports -/

/-- No object in the document of a mismatch repeats a name. -/
theorem Mismatch.merged_toJson (m : Mismatch) : m.toJson.merged = m.toJson := by
  have hsteps : ∀ document ∈ m.path.map Step.toJson, document.merged = document := by
    intro document hd
    obtain ⟨s, -, rfl⟩ := List.mem_map.mp hd
    cases s <;> rfl
  rw [toJson, Json.merged_object (by simp [Members.names])]
  simp only [Json.mergedMembers, Json.merged, Json.mergedItems_eq_self hsteps]

namespace Report

theorem merged_toJson (report : Report) : report.toJson.merged = report.toJson := by
  have hitems : ∀ document ∈ report.map Mismatch.toJson, document.merged = document := by
    intro document hd
    obtain ⟨m, -, rfl⟩ := List.mem_map.mp hd
    exact m.merged_toJson
  rw [toJson, Json.merged, Json.mergedItems_eq_self hitems]

/-- The numbers in the document of a report are the indices of its paths. -/
theorem mem_numbers_toJson {report : Report} {n : Number} (h : n ∈ report.toJson.numbers) :
    ∃ m ∈ report, ∃ i, .index i ∈ m.path ∧ n = .integer (i : Nat) := by
  obtain ⟨document, hd, hn⟩ := Json.mem_numbers_array.mp h
  obtain ⟨m, hm, rfl⟩ := List.mem_map.mp hd
  have hpath : n ∈ (Json.array (m.path.map Step.toJson)).numbers := by
    simpa [Mismatch.toJson, Json.numbersOfMembers, Json.numbers] using hn
  obtain ⟨_, hd, hn⟩ := Json.mem_numbers_array.mp hpath
  obtain ⟨s, hs, rfl⟩ := List.mem_map.mp hd
  cases s with
  | field name => cases hn
  | index i => exact ⟨m, hm, i, hs, List.mem_singleton.mp hn⟩

/-- The document of a report has at most three levels: the report, its mismatches and their paths. -/
theorem nesting_toJson_le (report : Report) : report.toJson.nesting ≤ 3 := by
  have hsteps : ∀ path : Path, Json.nestingItems (path.map Step.toJson) ≤ 0 := by
    intro path
    refine Json.nestingItems_le_iff.mpr fun document hd => ?_
    obtain ⟨s, -, rfl⟩ := List.mem_map.mp hd
    cases s <;> exact Nat.le_refl 0
  refine Nat.succ_le_succ (Json.nestingItems_le_iff.mpr fun document hd => ?_)
  obtain ⟨m, -, rfl⟩ := List.mem_map.mp hd
  have hpath := hsteps m.path
  simp only [Mismatch.toJson, Json.nesting, Json.nestingMembers]
  omega

end Report

/-! ## Reports -/

theorem readAs_report (report : Report) : ReadAs (listOf Mismatch.read) report.toJson report :=
  readAs_list (List.forall₂_map_left_iff.mpr (List.forall₂_same.mpr fun m _ => readAs_mismatch m))

/-- **A report is read from every text of its document.** -/
theorem Report.ofText_spelled {report : Report} {text : String} (h : SpellsWhole report.toJson text.toList) :
    Report.ofText text = .ok report := by
  obtain ⟨before, spelled, after, hbefore, hspelled, hafter, htext⟩ := h
  refine readWhole_eq_ok_iff.mpr ⟨after, ?_, hafter⟩
  rw [htext]
  exact readAs_report report before spelled after hbefore hspelled hafter.afterValue

end JsonShape
