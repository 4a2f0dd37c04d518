import JsonShape.Proofs.Json.Compact
import JsonShape.Proofs.Mismatch.Reading

/-!
# Reports that are written and read

The document of a report has three levels, no name twice in an object, and no numbers but the indices of its
paths.  So if these have 64 bits its text is a text of the document in any layout (`Report.spellsWhole_text`), and
the report is read from it (`report_round_trip`): a name made of digits is written as a string and stays a name.
-/

namespace JsonShape

namespace Report

/-- The indices of the paths have 64 bits. -/
def FitsWord (report : Report) : Prop :=
  ∀ m ∈ report, ∀ i, .index i ∈ m.path → i ≤ 18446744073709551615

variable {report : Report}

theorem FitsWord.numbers (h : report.FitsWord) : ∀ n ∈ report.toJson.numbers, n.FitsWord := by
  intro n hn
  obtain ⟨m, hm, i, hi, rfl⟩ := mem_numbers_toJson hn
  have hle := h m hm i hi
  rw [Number.FitsWord]
  omega

theorem FitsWord.legible (h : report.FitsWord) : ∀ n ∈ report.toJson.numbers, n.Legible := by
  intro n hn
  have hword := h.numbers n hn
  obtain ⟨_, _, i, _, rfl⟩ := mem_numbers_toJson hn
  exact (spellsNumber_integer hword).legible

/-- In any layout, the text of the document of a report is one of its texts. -/
theorem spellsWhole_text (h : report.FitsWord) (layout : Layout) :
    SpellsWhole report.toJson (layout.text 0 report.toJson) :=
  (layout.spells_text 0 h.legible).whole

theorem ofText_compact (h : report.FitsWord) : ofText report.toJson.compact = .ok report := by
  refine ofText_spelled ?_
  rw [Layout.text_tight report.toJson 0]
  exact spellsWhole_text h .tight

end Report

/-- **A report is read back from what is written of it**, in the compact and in the pretty layout: the same
mismatches in the same order, each with the same path, step by step. -/
theorem report_round_trip {report : Report} (h : report.FitsWord) :
    Report.ofText report.toJson.compact = .ok report ∧ Report.ofText report.toJson.pretty = .ok report := by
  refine ⟨Report.ofText_compact h, Report.ofText_spelled ?_⟩
  have hpretty : report.toJson.pretty.toList = Layout.lines.text 0 report.toJson :=
    Layout.text_lines report.toJson 0
  rw [hpretty]
  exact Report.spellsWhole_text h .lines

/-- A name of digits beside the index, an empty one, one that needs escapes and more than 16 bits, and the
largest index. -/
theorem report_round_trip_sample :
    let report : Report :=
      [⟨.depthExceeded, .boolean, .array, [.field "3", .index 3, .field "", .field "\"\\\n\x00😀"]⟩,
        ⟨.unexpectedAbsence, .object, .missing, []⟩,
        ⟨.notASequence, .array, .null, [.index 18446744073709551615, .field "18446744073709551615"]⟩]
    report.FitsWord ∧
      report.toJson.compact =
        "[\x7b\"code\":\"depth_exceeded\",\"expected\":\"boolean\",\"received\":\"array\"," ++
          "\"path\":[\"3\",3,\"\",\"\\\"\\\\\\n\\u0000😀\"]\x7d," ++
        "\x7b\"code\":\"unexpected_absence\",\"expected\":\"object\",\"received\":\"missing\",\"path\":[]\x7d," ++
        "\x7b\"code\":\"not_a_sequence\",\"expected\":\"array\",\"received\":\"null\"," ++
          "\"path\":[18446744073709551615,\"18446744073709551615\"]\x7d]" ∧
      Report.ofText report.toJson.compact = .ok report ∧ Report.ofText report.toJson.pretty = .ok report := by
  intro report
  -- the largest index is the largest number of 64 bits
  have hfits : report.FitsWord := by
    intro m hm i hi
    simp only [report, List.mem_cons, List.not_mem_nil, or_false] at hm
    rcases hm with rfl | rfl | rfl
    · simp only [List.mem_cons, reduceCtorEq, Step.index.injEq, List.not_mem_nil, false_or, or_false] at hi
      omega
    · cases hi
    · simp only [List.mem_cons, reduceCtorEq, Step.index.injEq, List.not_mem_nil, or_false] at hi
      omega
  exact ⟨hfits, by decide +kernel, report_round_trip hfits⟩

end JsonShape
