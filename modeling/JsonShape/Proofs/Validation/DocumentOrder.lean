import JsonShape.Proofs.Validation.Parse
import JsonShape.Proofs.Validation.Place

/-!
# The order of mismatches

Mismatches are reported in the order of the document: of two paths that part at some place, the one whose
step comes first there is reported first, where the fields of a record come in the order of their declaration
and the elements of an array in that of their indices (`Schema.PathBefore`).  Any two mismatches do part
somewhere, so no place has two of them and none stands inside a place that has one.
-/

namespace JsonShape

/-! ## Document order -/

/-- One step comes before another one at a rule. -/
inductive Schema.StepBefore (rule : Schema) : Step → Step → Prop
  | field {fields : List (String × Schema)} {i j : Nat} {first second : String}
      (hb : rule.base = .construct fields) (hij : i < j) (hi : (Members.names fields)[i]? = some first)
      (hj : (Members.names fields)[j]? = some second) : StepBefore rule (.field first) (.field second)
  | index {item : Schema} {i j : Nat} (hb : rule.base = .array item) (hij : i < j) :
      StepBefore rule (.index i) (.index j)

/-- One path comes before another one: at the place where they part, its step comes before the other's. -/
def Schema.PathBefore (rule : Schema) (path other : Path) : Prop :=
  ∃ common inner first second rest otherRest, rule.at? common = some inner ∧
    inner.StepBefore first second ∧ path = common ++ first :: rest ∧ other = common ++ second :: otherRest

theorem LayerOver.stepBefore {inner rule : Schema} (h : LayerOver inner rule) {first second : Step}
    (hs : inner.StepBefore first second) : rule.StepBefore first second := by
  cases hs with
  | field hb hij hi hj => exact .field (h.base.trans hb) hij hi hj
  | index hb hij => exact .index (h.base.trans hb) hij

namespace Schema

variable {rule : Schema}

theorem StepBefore.ne (hd : rule.Distinct) {first second : Step} (h : rule.StepBefore first second) :
    first ≠ second := by
  cases h with
  | @field fields i j first second hb hij hi hj =>
    rintro ⟨⟩
    -- a name that stands at two positions is one that the record declares twice
    have hlt : i < (Members.names fields).length := (List.getElem?_eq_some_iff.mp hi).1
    have hij' : i = j := (List.getElem?_inj hlt (nodup_names_of_base hd hb)).mp (hi.trans hj.symm)
    omega
  | index hb hij =>
    rintro ⟨⟩
    omega

theorem PathBefore.of_step {first second : Step} (h : rule.StepBefore first second) (rest otherRest : Path) :
    rule.PathBefore (first :: rest) (second :: otherRest) :=
  ⟨[], rule, first, second, rest, otherRest, rfl, h, rfl, rfl⟩

/-- Two paths one step further in are in the same order as seen from further out. -/
theorem PathBefore.cons {inner : Schema} {step : Step} (hs : rule.inside? step = some inner)
    {path other : Path} (h : inner.PathBefore path other) : rule.PathBefore (step :: path) (step :: other) := by
  obtain ⟨common, last, first, second, rest, otherRest, hat, hbefore, rfl, rfl⟩ := h
  refine ⟨step :: common, last, first, second, rest, otherRest, ?_, hbefore, rfl, rfl⟩
  rw [at?, follow_cons, hs]
  exact hat

/-- Of two paths in order, neither leads through the other one's place. -/
theorem PathBefore.not_prefix (hd : rule.Distinct) {path other : Path} (h : rule.PathBefore path other) :
    ¬ path <+: other ∧ ¬ other <+: path := by
  obtain ⟨common, inner, first, second, rest, otherRest, hat, hbefore, rfl, rfl⟩ := h
  have hne := hbefore.ne (distinct_of_at? hd hat)
  rw [List.prefix_append_right_inj, List.prefix_append_right_inj, List.cons_prefix_cons,
    List.cons_prefix_cons]
  exact ⟨fun hp => hne hp.1, fun hp => hne hp.1.symm⟩

/-! ## The order of a scan -/

/-- The places one step further in are listed in the order of their steps. -/
theorem pairwise_inward (rule : Schema) (input : Option Json) :
    (rule.inward input).Pairwise fun place other => rule.StepBefore place.step other.step := by
  fun_induction inward rule input with
  | case1 inner input ih => exact ih.imp fun h => LayerOver.optional.stepBefore h
  | case2 inner input ih => exact ih.imp fun h => LayerOver.nullable.stepBefore h
  | case3 fields members =>
    rw [List.pairwise_map, List.pairwise_iff_getElem]
    intro i j hi hj hij
    exact .field rfl hij (by simp [Members.names, hi]) (by simp [Members.names, hj])
  | case4 item items =>
    rw [List.pairwise_map, List.pairwise_iff_getElem]
    intro i j hi hj hij
    rw [List.getElem_zipIdx, List.getElem_zipIdx]
    exact .index rfl (by simpa using hij)
  | case5 => exact .nil

end Schema

/-- Reports of places in order make up a report in order, if each of them is. -/
theorem pairwise_gather_inward {rule : Schema} (hd : rule.Distinct) {input : Option Json}
    {report : Inward → Report}
    (h : ∀ place ∈ rule.inward input,
      (report place).Pairwise fun m other => place.rule.PathBefore m.path other.path) :
    (Report.gather ((rule.inward input).map fun place => (place.step, report place))).Pairwise
      fun m other => rule.PathBefore m.path other.path := by
  rw [Report.gather, List.flatMap_map, List.pairwise_flatMap]
  constructor
  · intro place hp
    have hrule := (Schema.enter_of_mem_inward hd hp).1
    exact List.pairwise_map.mpr ((h place hp).imp fun hbefore => hbefore.cons hrule)
  · refine (rule.pairwise_inward input).imp fun {place other} hbefore m hm m' hm' => ?_
    obtain ⟨inner, -, rfl⟩ := List.mem_map.mp hm
    obtain ⟨inner', -, rfl⟩ := List.mem_map.mp hm'
    exact .of_step hbefore inner.path inner'.path

/-- **A scan finds mismatches in document order.** -/
theorem scan_pairwise {rule : Schema} (hd : rule.Distinct) (cap : Nat) (input : Option Json) (depth : Nat) :
    (scan cap rule input depth).Pairwise fun m other => rule.PathBefore m.path other.path := by
  induction rule, input using Schema.induct_inward generalizing depth with
  | step rule input ih =>
    rw [scan, found, branches_eq_map_inward]
    split
    · exact List.pairwise_singleton _ _
    split
    · exact .nil
    split
    · exact pairwise_gather_inward hd fun place hp => ih place hp (Schema.distinct_of_mem_inward hd hp) _
    · exact List.pairwise_singleton _ _

/-- **A report has one mismatch a place, in document order**: no mismatch stands at the place of another one
or inside it, and of any two, the earlier one's step comes first where their paths part. -/
theorem mismatches_ordered {rule : Schema} (hd : rule.Distinct) {input : Option Json} {cap : Nat}
    {report : Report} (h : rule.parse input cap = .error report) :
    report.Pairwise (fun m other => ¬ m.path <+: other.path ∧ ¬ other.path <+: m.path) ∧
      report.Pairwise fun m other => rule.PathBefore m.path other.path := by
  obtain ⟨rfl, -⟩ := parse_eq_error_iff.mp h
  have hbefore := scan_pairwise hd cap input 1
  exact ⟨hbefore.imp fun hb => hb.not_prefix hd, hbefore⟩

/-- Layers that collapse, an element that is not of the array's kind, and a part that is beyond the cap: the
fields are reported as they are declared, not as they stand in the document. -/
theorem mismatches_ordered_sample :
    let rule : Schema := .construct
      [("tags", .array (.nullable (.optional .number))), ("id", .nullable .string), ("a", .array (.array .string))]
    let input : Json := .object
      [("id", .bool true), ("a", .array [.array [.null]]), ("tags", .array [.string "x", .null, .bool true])]
    let report : Report :=
      [⟨.unexpectedNull, .number, .string, [.field "tags", .index 0]⟩,
        ⟨.unexpectedNull, .number, .boolean, [.field "tags", .index 2]⟩,
        ⟨.unexpectedNull, .string, .boolean, [.field "id"]⟩,
        ⟨.invalidType, .string, .null, [.field "a", .index 0, .index 0]⟩]
    rule.Distinct ∧ rule.parse (some input) 5 = .error report ∧
      report.Pairwise (fun m other => ¬ m.path <+: other.path ∧ ¬ other.path <+: m.path) ∧
      report.Pairwise fun m other => rule.PathBefore m.path other.path := by
  intro rule input report
  have hd : rule.Distinct := by
    simp [rule, Schema.Distinct, Schema.DistinctFields, Members.names]
  have hparse : rule.parse (some input) 5 = .error report := rfl
  exact ⟨hd, hparse, mismatches_ordered hd hparse⟩

end JsonShape
