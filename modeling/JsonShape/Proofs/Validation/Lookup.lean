import JsonShape.Proofs.Mismatch.Rendering
import JsonShape.Proofs.Schema.Records
import JsonShape.Proofs.Validation.DocumentOrder
import JsonShape.Proofs.Validation.Located

/-!
# Looking a mismatch up

A mismatch is looked up by the text of its path.  The names in a path are declared in the schema
(`mem_declaredNames_of_at?`), so where these are not empty and have neither a point nor an opening bracket, the
text tells the path, but for the whole document and a field `$` of it.  These two are never reported together, as
no mismatch stands inside a place that has one.  So every mismatch is found by its own text
(`mismatches_found`).
-/

namespace JsonShape

namespace Schema

theorem declaredNames_base (rule : Schema) : rule.base.declaredNames = rule.declaredNames := by
  induction rule with
  | primitive rule hp => rw [base_of_isBase (isBase_of_primitive hp)]
  | construct fields _ => rfl
  | array item _ => rfl
  | layer inner rule hl ih =>
    rw [hl.base, ih]
    cases hl with
    | optional => exact (declaredNames_of_child rfl).symm
    | nullable => exact (declaredNames_of_child rfl).symm

/-- A step leads along a declared name, or along an index, to a rule with no other names. -/
theorem declaredNames_inside {rule inner : Schema} {step : Step} (h : rule.inside? step = some inner) :
    (∀ name, step = .field name → name ∈ rule.declaredNames) ∧ inner.declaredNames ⊆ rule.declaredNames := by
  rw [← declaredNames_base rule]
  cases step with
  | field name =>
    obtain ⟨fields, hbase, hget⟩ := inside?_field_eq_some_iff.mp h
    have hfield := Members.mem_of_get? hget
    rw [hbase]
    constructor
    · rintro _ ⟨⟩
      exact mem_declaredNames_construct.mpr (.inl (List.mem_map_of_mem hfield))
    · intro other ho
      exact mem_declaredNames_construct.mpr (.inr ⟨_, hfield, ho⟩)
  | index i =>
    rw [inside?_index_eq_some_iff.mp h, @declaredNames_of_child inner (array inner) rfl]
    exact ⟨by simp, List.Subset.refl _⟩

/-- **The names in a path are declared in the schema.** -/
theorem mem_declaredNames_of_at? {rule inner : Schema} {path : Path} (h : rule.at? path = some inner)
    {name : String} (hn : .field name ∈ path) : name ∈ rule.declaredNames := by
  induction path generalizing rule with
  | nil => cases hn
  | cons step rest ih =>
    obtain ⟨next, hnext, hrest⟩ := Option.bind_eq_some_iff.mp h
    obtain ⟨hstep, hsubset⟩ := declaredNames_inside hnext
    rcases List.mem_cons.mp hn with hs | hn
    · exact hstep name hs.symm
    · exact hsubset (ih hrest hn)

end Schema

variable {rule : Schema}

/-- A path whose names are declared in the schema is plain and begins with no empty name, if none of these is
empty and all of them are plain. -/
theorem plain_of_at? (hnames : ∀ name ∈ rule.declaredNames, name ≠ "" ∧ PlainName name) {path : Path}
    {inner : Schema} (h : rule.at? path = some inner) :
    PlainPath path ∧ path.head? ≠ some (.field "") := by
  refine ⟨fun name hn => (hnames name (Schema.mem_declaredNames_of_at? h hn)).2, fun hhead => ?_⟩
  exact (hnames "" (Schema.mem_declaredNames_of_at? h (List.mem_of_head? hhead))).1 rfl

/-- Mismatches of one scan that have the same text stand at the same place or inside one another. -/
theorem prefix_of_place_eq (hd : rule.Distinct)
    (hnames : ∀ name ∈ rule.declaredNames, name ≠ "" ∧ PlainName name) {cap depth : Nat} {input : Option Json}
    {m other : Mismatch} (hm : m ∈ scan cap rule input depth) (ho : other ∈ scan cap rule input depth)
    (h : m.place = other.place) : m.path <+: other.path ∨ other.path <+: m.path := by
  obtain ⟨_, _, hat, -⟩ := scan_located hd hm
  obtain ⟨_, _, hat', -⟩ := scan_located hd ho
  obtain ⟨hplain, hhead⟩ := plain_of_at? hnames hat
  obtain ⟨hplain', hhead'⟩ := plain_of_at? hnames hat'
  rcases Step.eq_or_root_of_render_eq hplain hplain' hhead hhead' h with he | ⟨he, -⟩ | ⟨-, he⟩
  · exact .inl (he ▸ List.prefix_rfl)
  · exact .inl (he ▸ List.nil_prefix)
  · exact .inr (he ▸ List.nil_prefix)

/-- **Every mismatch is found by its own text**: where no declared name is empty or has a point or an opening
bracket, no two mismatches of a report have the same text, and so the one that is looked up is the one that is
found, by its position in the report. -/
theorem mismatches_found (hd : rule.Distinct)
    (hnames : ∀ name ∈ rule.declaredNames, name ≠ "" ∧ PlainName name) {input : Option Json} {cap : Nat}
    {report : Report} (h : rule.parse input cap = .error report) {i : Nat} (hi : i < report.length) :
    Report.find? report report[i].place = some report[i] ∧
      ∀ j (hj : j < report.length), report[j].place = report[i].place → j = i := by
  obtain ⟨rfl, -⟩ := parse_eq_error_iff.mp h
  have hbefore := List.pairwise_iff_getElem.mp (scan_pairwise hd cap input 1)
  -- two mismatches of one report stand at places of which neither is a beginning of the other
  have hdiffer : ∀ j k (hj : j < (scan cap rule input 1).length) (hk : k < (scan cap rule input 1).length),
      j < k → (scan cap rule input 1)[j].place ≠ (scan cap rule input 1)[k].place := by
    intro j k hj hk hjk hplace
    have hpaths := hbefore j k hj hk hjk
    obtain ⟨hnot, hnot'⟩ := hpaths.not_prefix hd
    rcases prefix_of_place_eq hd hnames (List.getElem_mem hj) (List.getElem_mem hk) hplace with hp | hp
    · exact hnot hp
    · exact hnot' hp
  constructor
  · rw [Report.find?, List.find?_eq_some_iff_getElem]
    refine ⟨beq_self_eq_true _, i, hi, rfl, fun j hj => ?_⟩
    simpa using hdiffer j i (hj.trans hi) hi hj
  · intro j hj hplace
    rcases Nat.lt_trichotomy j i with hlt | rfl | hlt
    · exact absurd hplace (hdiffer j i hj hi hlt)
    · rfl
    · exact absurd hplace.symm (hdiffer i j hi hj hlt)

/-- A field `$`, and names with the other characters of a path in them. -/
theorem mismatches_found_sample :
    let rule : Schema := .construct
      [("$", .array (.nullable .number)), ("tags", .construct [("a]0", .string), ("$ 2", .optional .boolean)])]
    let input : Json := .object
      [("$", .array [.bool true, .null, .string "x"]), ("tags", .object [("$ 2", .null)])]
    let report : Report :=
      [⟨.unexpectedNull, .number, .boolean, [.field "$", .index 0]⟩,
        ⟨.unexpectedNull, .number, .string, [.field "$", .index 2]⟩,
        ⟨.invalidType, .string, .missing, [.field "tags", .field "a]0"]⟩,
        ⟨.unexpectedAbsence, .boolean, .null, [.field "tags", .field "$ 2"]⟩]
    rule.Distinct ∧ (∀ name ∈ rule.declaredNames, name ≠ "" ∧ PlainName name) ∧
      rule.parse (some input) 5 = .error report ∧
      Report.find? report "tags.$ 2" = some ⟨.unexpectedAbsence, .boolean, .null, [.field "tags", .field "$ 2"]⟩ ∧
      ∀ j (hj : j < report.length), report[j].place = "tags.$ 2" → j = 3 := by
  intro rule input report
  have hd : rule.Distinct := by
    simp [rule, Schema.Distinct, Schema.DistinctFields, Members.names]
  have hnames : ∀ name ∈ rule.declaredNames, name ≠ "" ∧ PlainName name := by
    intro name hn
    have hcases : name ∈ ["$", "tags", "a]0", "$ 2"] := hn
    simp only [List.mem_cons, List.not_mem_nil, or_false] at hcases
    rcases hcases with rfl | rfl | rfl | rfl <;> exact ⟨by decide, by decide, by decide⟩
  have hparse : rule.parse (some input) 5 = .error report := rfl
  exact ⟨hd, hnames, hparse, mismatches_found hd hnames hparse (i := 3) (by decide)⟩

end JsonShape
