import JsonShape.Proofs.Validation.Conformity

/-!
# The walk follows the scan

The walk of `visit` keeps a path, logs mismatches and takes some of them back.  Wherever it starts, it
leaves the path and the log as they were, with the report of the scan put at the end of the log, and it
answers with the pruned input exactly if that report is empty (`visit_follows`).

* `Report.verdict` is the answer of a check with a given report.
* `Walk.logAll` logs a report that was made at the present place.
* `Schema.mismatches` is the report of a check, which a success leaves empty.
-/

namespace JsonShape

/-- The answer of a check: a value if there is no mismatch. -/
def Report.verdict {α : Type} (report : Report) (value : α) : Option α :=
  if report.isEmpty then some value else none

/-- Whether a mismatch stands at the place of the report itself, and not for the cap. -/
def Mismatch.isLocal (m : Mismatch) : Bool := m.path.isEmpty && m.complaint != .depthExceeded

theorem Report.map_verdict {α β : Type} (f : α → β) (report : Report) (value : α) :
    (report.verdict value).map f = report.verdict (f value) := by
  rw [verdict, verdict]
  split <;> rfl

namespace Walk

/-- Logs every mismatch of a report that was made at the present place. -/
def logAll (w : Walk) (report : Report) : Walk :=
  { w with log := w.log ++ report.map (Mismatch.below w.path) }

@[simp] theorem logAll_nil (w : Walk) : w.logAll [] = w := by
  simp [logAll]

@[simp] theorem logAll_logAll (w : Walk) (first second : Report) :
    (w.logAll first).logAll second = w.logAll (first ++ second) := by
  simp [logAll]

theorem fail_eq_logAll (w : Walk) (complaint : Complaint) (expected received : Kind) :
    w.fail complaint expected received = w.logAll [⟨complaint, expected, received, []⟩] := by
  simp [fail, logAll, Mismatch.below]

@[simp] theorem start_logAll (report : Report) : start.logAll report = ⟨[], report⟩ := by
  simp [start, logAll, Mismatch.map_below_nil]

/-- A check one step further in logs its report with that step in front. -/
theorem within_logAll {α : Type} {w : Walk} {step : Step} {check : Walk → α × Walk} {result : α}
    {report : Report}
    (h : ∀ w : Walk, check w = (result, w.logAll report)) :
    w.within step check = (result, w.logAll (report.map (Mismatch.below [step]))) := by
  simp [within, h, logAll, Mismatch.below_below, Function.comp_def]

/-- The mismatches logged since a mark are taken back if all of them stand at the place of the walk and
none is about the cap. -/
theorem collapse_logAll (w : Walk) (report : Report) (complaint : Complaint) (expected received : Kind) :
    (w.logAll report).collapse w.log.length complaint expected received =
      if report.all Mismatch.isLocal then
        w.logAll [⟨complaint, expected, received, []⟩]
      else w.logAll report := by
  have hall : ((w.logAll report).log.drop w.log.length).all (w.logAll report).isHere =
      report.all Mismatch.isLocal := by
    simp only [logAll, List.drop_left, List.all_map]
    congr 1
    funext m
    cases hm : m.path <;> simp [isHere, Mismatch.isLocal, hm]
  rw [collapse, hall]
  split
  · rw [fail_eq_logAll]
    simp [logAll]
  · rfl

end Walk

/-- The walk over a place does to the walk what the scan of the place says. -/
def Follows (cap : Nat) (rule : Schema) (input : Option Json) (depth : Nat) (w : Walk) : Prop :=
  visit cap rule input depth w =
    ((scan cap rule input depth).verdict (input.map rule.prune), w.logAll (scan cap rule input depth))

/-! ## The walk through the places further in -/

theorem visitItems_eq {cap depth : Nat} {item : Schema}
    (ih : ∀ input w, Follows cap item input depth w) (items : List Json) (index : Nat) (w : Walk) :
    let report := Report.gather ((items.zipIdx index).map fun entry =>
      (.index entry.2, scan cap item (some entry.1) depth))
    visitItems (fun input => visit cap item input depth) index items w =
      (report.verdict (items.map item.prune), w.logAll report) := by
  induction items generalizing index w with
  | nil => simp [visitItems, Report.verdict]
  | cons value rest ihr =>
    rw [visitItems, Walk.within_logAll (ih (some value))]
    simp only [ihr, Report.gather_cons, List.zipIdx_cons, List.map_cons, Walk.logAll_logAll]
    cases scan cap item (some value) depth <;>
      cases Report.gather ((rest.zipIdx (index + 1)).map fun entry =>
        (Step.index entry.2, scan cap item (some entry.1) depth)) <;>
      simp [Report.verdict]

theorem visitFields_eq {cap depth : Nat} {fields : List (String × Schema)}
    (ih : ∀ field ∈ fields, ∀ input w, Follows cap field.2 input depth w)
    (members : List (String × Json)) (w : Walk) :
    let report := Report.gather (fields.map fun field =>
      (.field field.1, scan cap field.2 (Members.get? field.1 members) depth))
    visitFields cap fields members depth w =
      (report.verdict (Schema.pruneFields fields members), w.logAll report) := by
  induction fields generalizing w with
  | nil => simp [visitFields, Report.verdict, Schema.pruneFields]
  | cons field rest ihr =>
    obtain ⟨name, rule⟩ := field
    have hrest := ihr fun field hm => ih field (List.mem_cons_of_mem _ hm)
    rw [visitFields, Walk.within_logAll (ih _ List.mem_cons_self (Members.get? name members)),
      Schema.pruneFields]
    simp only [hrest, Report.gather_cons, List.map_cons, Walk.logAll_logAll]
    cases scan cap rule (Members.get? name members) depth <;>
      cases Report.gather (rest.map fun field =>
        (Step.field field.1, scan cap field.2 (Members.get? field.1 members) depth)) <;>
      cases Members.get? name members <;> simp [Report.verdict]

/-! ## What a layer makes of a report -/

/-- Mismatches that all stand at the place itself, and not for the cap, are replaced by one. -/
def Report.spokenFor (complaint : Complaint) (expected received : Kind) (report : Report) : Report :=
  if report.isEmpty then []
  else if report.all Mismatch.isLocal then [⟨complaint, expected, received, []⟩]
  else report

theorem Report.not_all_isLocal_gather {branches : List (Step × Report)} (h : gather branches ≠ []) :
    ¬ (gather branches).all Mismatch.isLocal = true := by
  intro hall
  obtain ⟨m, hm⟩ := List.exists_mem_of_ne_nil _ h
  have := List.all_eq_true.mp hall m hm
  simp [Mismatch.isLocal, path_ne_nil_of_mem_gather hm] at this

theorem scan_layer_eq_spokenFor {cap depth : Nat} {inner rule : Schema} (hl : LayerOver inner rule)
    {input : Option Json} (hn : rule.letsThrough input = false) :
    scan cap rule input depth =
      (scan cap inner input (depth + 1)).spokenFor rule.complaint inner.expected (kindOf input) := by
  rw [scan_layer hl hn, scan, found]
  split
  · simp [Report.spokenFor, Mismatch.isLocal]
  split
  · simp [Report.spokenFor]
  split
  · by_cases hg : Report.gather (branches cap inner input (depth + 1)) = []
    · simp [Report.spokenFor, hg]
    · rw [Report.spokenFor, if_neg (by simpa using hg), if_neg (Report.not_all_isLocal_gather hg)]
  · simp [Report.spokenFor, Mismatch.isLocal, Schema.complaint_ne_depthExceeded]

/-! ## The walk at a place -/

/-- A place beyond the cap is logged as such, whatever its rule. -/
theorem Follows.of_le {cap depth : Nat} {rule : Schema} {input : Option Json} {w : Walk}
    (h : depth ≤ cap → Follows cap rule input depth w) : Follows cap rule input depth w := by
  by_cases hc : cap < depth
  · rw [Follows, visit.eq_def, if_pos hc, scan, found, if_pos (by omega), Walk.fail_eq_logAll]
    rfl
  · exact h (by omega)

/-- A base rule complains about a value of another kind. -/
theorem visit_of_kind_ne {cap depth : Nat} {rule : Schema} (hb : rule.isBase) (h : depth ≤ cap)
    {input : Option Json} (hk : kindOf input ≠ rule.expected) (w : Walk) :
    Follows cap rule input depth w := by
  rw [Follows, visit.eq_def, if_neg (by omega), scan_of_kind_ne hb h hk, ← Walk.fail_eq_logAll]
  cases rule with
  | string | number | boolean => exact if_neg hk
  | construct => rcases input with _ | (_ | _ | _ | _ | _ | _) <;> first | rfl | exact absurd rfl hk
  | array => rcases input with _ | (_ | _ | _ | _ | _ | _) <;> first | rfl | exact absurd rfl hk
  | optional | nullable => cases hb

theorem visit_primitive {cap depth : Nat} {rule : Schema} (hp : rule.isPrimitive) (h : depth ≤ cap)
    {input : Option Json} (hk : kindOf input = rule.expected) (w : Walk) :
    Follows cap rule input depth w := by
  have hv : visit cap rule input depth w = (some input, w) := by
    rw [visit.eq_def, if_neg (by omega)]
    cases rule with
    | string | number | boolean => exact if_pos hk
    | _ => cases hp
  have hi : input.map rule.prune = input := by
    cases input <;> simp [Schema.prune_of_primitive hp]
  rw [Follows, hv, scan_base (Schema.isBase_of_primitive hp) input h, if_pos hk,
    branches_of_primitive hp, hi]
  simp [Report.verdict]

theorem visit_construct {cap depth : Nat} {fields : List (String × Schema)} (h : depth ≤ cap)
    (ih : ∀ field ∈ fields, ∀ input w, Follows cap field.2 input (depth + 1) w)
    (members : List (String × Json)) (w : Walk) :
    Follows cap (.construct fields) (some (.object members)) depth w := by
  have hf := visitFields_eq ih members w
  rw [Follows, visit.eq_def, if_neg (by omega), scan_construct h]
  simp only [hf, Report.map_verdict, Option.map_some, Schema.prune]

theorem visit_array {cap depth : Nat} {item : Schema} (h : depth ≤ cap)
    (ih : ∀ input w, Follows cap item input (depth + 1) w) (items : List Json) (w : Walk) :
    Follows cap (.array item) (some (.array items)) depth w := by
  have hf := visitItems_eq ih items 0 w
  rw [Follows, visit.eq_def, if_neg (by omega), scan_array h]
  simp only [hf, Report.map_verdict, Option.map_some, Schema.prune]

theorem visit_of_letsThrough {cap depth : Nat} {rule : Schema} {input : Option Json}
    (ht : rule.letsThrough input = true) (h : depth ≤ cap) (w : Walk) :
    Follows cap rule input depth w := by
  rw [Follows, scan_of_letsThrough ht h, visit.eq_def, if_neg (by omega), Walk.logAll_nil]
  unfold Schema.letsThrough at ht
  split at ht
  · rfl
  · simp [Report.verdict, Schema.prune_eq_null_iff.mpr]
  · cases ht

/-- A layer speaks for the rule inside as the scan has it. -/
theorem visit_layer {cap depth : Nat} {inner rule : Schema} (hl : LayerOver inner rule)
    {input : Option Json} (hn : rule.letsThrough input = false) (h : depth ≤ cap)
    (ih : ∀ w, Follows cap inner input (depth + 1) w) (w : Walk) : Follows cap rule input depth w := by
  have hv : visit cap rule input depth w =
      visitWrapped rule.complaint inner.expected input (visit cap inner input (depth + 1)) w := by
    rw [visit.eq_def, if_neg (by omega)]
    cases hl with
    | optional =>
      cases input with
      | none => cases hn
      | some document => rfl
    | nullable =>
      rcases input with _ | (_ | _ | _ | _ | _ | _) <;> first | rfl | cases hn
  have hp : input.map rule.prune = input.map inner.prune := Option.map_congr fun v _ => hl.prune v
  rw [Follows, hv, visitWrapped, ih, scan_layer_eq_spokenFor hl hn, hp]
  -- without a mismatch the value goes through, and otherwise the log is collapsed as the report is
  cases hr : scan cap inner input (depth + 1) with
  | nil => simp [Report.verdict, Report.spokenFor]
  | cons m rest =>
    simp only [Report.verdict, Report.spokenFor, List.isEmpty_cons, Bool.false_eq_true, if_false,
      Walk.collapse_logAll]
    split <;> simp

/-- **The walk follows the scan**: from any state, under any path and after any log. -/
theorem visit_follows (cap : Nat) (rule : Schema) (input : Option Json) (depth : Nat) (w : Walk) :
    Follows cap rule input depth w := by
  -- state, input and depth vary, since the walk carries its path and log along
  induction rule generalizing input depth w with
  | primitive rule hp =>
    refine Follows.of_le fun h => ?_
    by_cases hk : kindOf input = rule.expected
    · exact visit_primitive hp h hk w
    · exact visit_of_kind_ne (Schema.isBase_of_primitive hp) h hk w
  | construct fields ih =>
    refine Follows.of_le fun h => ?_
    by_cases hk : kindOf input = .object
    · obtain ⟨members, rfl⟩ := kindOf_eq_object_iff.mp hk
      exact visit_construct h (fun field hm input w => ih field hm input (depth + 1) w) members w
    · exact visit_of_kind_ne rfl h hk w
  | array item ih =>
    refine Follows.of_le fun h => ?_
    by_cases hk : kindOf input = .array
    · obtain ⟨items, rfl⟩ := kindOf_eq_array_iff.mp hk
      exact visit_array h (fun input w => ih input (depth + 1) w) items w
    · exact visit_of_kind_ne rfl h hk w
  | layer inner rule hl ih =>
    refine Follows.of_le fun h => ?_
    by_cases ht : rule.letsThrough input = true
    · exact visit_of_letsThrough ht h w
    · exact visit_layer hl (by simpa using ht) h (ih input (depth + 1)) w

/-! ## Whole documents -/

theorem parse_eq (rule : Schema) (input : Option Json) (cap : Nat) :
    rule.parse input cap =
      if scan cap rule input 1 = [] then .ok (input.map rule.prune) else .error (scan cap rule input 1) := by
  rw [Schema.parse, visit_follows, Walk.start_logAll]
  cases scan cap rule input 1 <;> rfl

/-- The report of a check, which is empty after a success. -/
def Schema.mismatches (rule : Schema) (input : Option Json) (cap : Nat) : Report :=
  match rule.parse input cap with
  | .ok _ => []
  | .error report => report

theorem mismatches_eq_scan (rule : Schema) (input : Option Json) (cap : Nat) :
    rule.mismatches input cap = scan cap rule input 1 := by
  rw [Schema.mismatches, parse_eq]
  by_cases h : scan cap rule input 1 = []
  · rw [if_pos h, h]
  · rw [if_neg h]

theorem parse_eq_ok_iff {rule : Schema} {input : Option Json} {cap : Nat} {out : Option Json} :
    rule.parse input cap = .ok out ↔ scan cap rule input 1 = [] ∧ out = input.map rule.prune := by
  rw [parse_eq]
  by_cases h : scan cap rule input 1 = []
  · simp [h, eq_comm]
  · simp [h]

theorem parse_eq_error_iff {rule : Schema} {input : Option Json} {cap : Nat} {report : Report} :
    rule.parse input cap = .error report ↔ report = scan cap rule input 1 ∧ report ≠ [] := by
  rw [parse_eq]
  by_cases h : scan cap rule input 1 = []
  · rw [if_pos h, h]
    simp
  · rw [if_neg h, Except.error.injEq]
    constructor
    · rintro rfl
      exact ⟨rfl, h⟩
    · rintro ⟨rfl, -⟩
      rfl

theorem parse_eq_ok_iff_conforms {rule : Schema} {cap : Nat} (h : rule.depth ≤ cap)
    {input out : Option Json} :
    rule.parse input cap = .ok out ↔ Conforms rule input ∧ out = input.map rule.prune := by
  rw [parse_eq_ok_iff, scan_eq_nil_iff rule input 1 (by omega)]

theorem parseValue_eq_ok_iff_conforms {rule : Schema} {cap : Nat} (h : rule.depth ≤ cap)
    {document out : Json} :
    rule.parseValue document cap = .ok out ↔
      Conforms rule (some document) ∧ out = rule.prune document := by
  have hc : scan cap rule (some document) 1 = [] ↔ Conforms rule (some document) :=
    scan_eq_nil_iff rule (some document) 1 (by omega)
  rw [Schema.parseValue, ← hc, parse_eq]
  by_cases hs : scan cap rule (some document) 1 = []
  · simp [hs, Except.map, eq_comm]
  · simp [hs, Except.map]

/-- **The report is exact**: a check fails with the mismatches of the scan and with no others, in its
order, and it succeeds exactly when the scan finds none. -/
theorem parse_reports_scan (rule : Schema) (input : Option Json) (cap : Nat) :
    (∀ report, rule.parse input cap = .error report ↔ report = scan cap rule input 1 ∧ report ≠ []) ∧
      ((∃ out, rule.parse input cap = .ok out) ↔ scan cap rule input 1 = []) := by
  constructor
  · intro report
    exact parse_eq_error_iff
  · simp only [parse_eq_ok_iff, exists_and_left, exists_eq, and_true]

/-- **Acceptance and output are exact** under a cap that covers the schema: what is supplied is accepted
exactly when it conforms, and comes out pruned.  So it is missing exactly when it was, and `null` exactly
where it was, and an object keeps the declared fields that were supplied, in the order of declaration. -/
theorem parse_ok_iff_conforms {rule : Schema} {cap : Nat} (h : rule.depth ≤ cap) :
    (∀ input out, rule.parse input cap = .ok out ↔
      Conforms rule input ∧ out = input.map rule.prune) ∧
    (∀ document out, rule.parseValue document cap = .ok out ↔
      Conforms rule (some document) ∧ out = rule.prune document) ∧
    (∀ document, rule.prune document = .null ↔ document = .null) ∧
    ∀ fields members, Members.names (Schema.pruneFields fields members) =
      (Members.names fields).filter fun name => (Members.get? name members).isSome := by
  exact ⟨fun _ _ => parse_eq_ok_iff_conforms h, fun _ _ => parseValue_eq_ok_iff_conforms h,
    fun _ => Schema.prune_eq_null_iff, Schema.names_pruneFields⟩

theorem parse_ok_iff_conforms_sample :
    (Schema.construct [("id", .number), ("nick", .optional .string),
      ("tags", .array (.nullable .boolean))]).depth ≤ 4 ∧
    (Schema.construct [("id", .number), ("nick", .optional .string),
      ("tags", .array (.nullable .boolean))]).parse
      (some (.object [("tags", .array [.null, .bool true]), ("age", .null),
        ("id", .number (.integer 7))])) 4 =
      .ok (some (.object [("id", .number (.integer 7)), ("tags", .array [.null, .bool true])])) := by
  refine ⟨by decide, ((parse_ok_iff_conforms (by decide)).1 _ _).mpr ⟨.construct ?_, rfl⟩⟩
  simp only [List.forall_mem_cons]
  refine ⟨.primitive rfl rfl, .missing _, .array ?_, by simp⟩
  simp only [List.forall_mem_cons]
  exact ⟨.null _, .nullable (.primitive rfl rfl), by simp⟩

end JsonShape
