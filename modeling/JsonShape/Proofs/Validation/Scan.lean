import JsonShape.Validation.Walk
import JsonShape.Proofs.Schema.Induction

/-!
# The scan of a document

`scan` lists the mismatches of what is supplied at a place, with no state: no path is kept on the way
and no mismatch is taken back.  Paths are relative to the place of the scan.

* `Schema.decider` is the rule that decides about what is supplied: the first layer from the outside that
  lets it through outright, or the base rule.  `Schema.layersOver` counts the layers around it.
* `found` is the report of one place, given what is found further in.
* `branches` are the reports of the places one step further in, each with its step, and `Report.gather`
  joins them.
-/

namespace JsonShape

namespace Mismatch

/-- The mismatch as seen from a place further out, to which `outer` leads back. -/
def below (outer : Path) (m : Mismatch) : Mismatch := { m with path := outer ++ m.path }

@[simp] theorem below_path (outer : Path) (m : Mismatch) : (m.below outer).path = outer ++ m.path := rfl

@[simp] theorem below_complaint (outer : Path) (m : Mismatch) :
    (m.below outer).complaint = m.complaint := rfl

@[simp] theorem below_nil (m : Mismatch) : m.below [] = m := rfl

theorem map_below_nil (report : Report) : report.map (below []) = report :=
  List.map_id'' below_nil report

theorem below_below (outer inner : Path) (m : Mismatch) :
    (m.below inner).below outer = m.below (outer ++ inner) := by
  simp [below]

end Mismatch

/-- The reports of places one step further in, as one report. -/
def Report.gather (branches : List (Step × Report)) : Report :=
  branches.flatMap fun branch => branch.2.map (Mismatch.below [branch.1])

namespace Schema

/-- The complaint of a rule about a value that it does not accept. -/
def complaint : Schema → Complaint
  | string => .invalidType
  | number => .invalidType
  | boolean => .invalidType
  | construct _ => .notAStructure
  | optional _ => .unexpectedAbsence
  | nullable _ => .unexpectedNull
  | array _ => .notASequence

/-- Whether the outermost rule is a layer that accepts the input whatever the rule inside is. -/
def letsThrough : Schema → Option Json → Bool
  | optional _, none => true
  | nullable _, some .null => true
  | _, _ => false

/-- The first layer from the outside that lets the input through, or the base rule if none does. -/
def decider (input : Option Json) : Schema → Schema
  | optional inner =>
    if (optional inner).letsThrough input then optional inner else decider input inner
  | nullable inner =>
    if (nullable inner).letsThrough input then nullable inner else decider input inner
  | base => base

/-- The number of layers around the rule that decides. -/
def layersOver (input : Option Json) : Schema → Nat
  | optional inner => if (optional inner).letsThrough input then 0 else layersOver input inner + 1
  | nullable inner => if (nullable inner).letsThrough input then 0 else layersOver input inner + 1
  | _ => 0

end Schema

/-- The report of a place whose rule stands at the given depth of the schema, where `inside` is the
report of the places further in. -/
def found (cap : Nat) (rule : Schema) (input : Option Json) (depth : Nat) (inside : Report) : Report :=
  if cap < depth + rule.layersOver input then [⟨.depthExceeded, rule.expected, kindOf input, []⟩]
  else if (rule.decider input).letsThrough input then []
  else if kindOf input = rule.expected then inside
  else [⟨rule.complaint, rule.expected, kindOf input, []⟩]

mutual

/-- The reports of the places one step further in: of the declared fields of an object in the order of
their declaration, or of the elements of an array in the order of their indices. -/
def branches (cap : Nat) : Schema → Option Json → Nat → List (Step × Report)
  | .optional inner, input, depth => branches cap inner input (depth + 1)
  | .nullable inner, input, depth => branches cap inner input (depth + 1)
  | .construct fields, some (.object members), depth => fieldBranches cap fields members (depth + 1)
  | .array item, some (.array items), depth =>
    items.zipIdx.map fun entry =>
      (.index entry.2, found cap item (some entry.1) (depth + 1)
        (Report.gather (branches cap item (some entry.1) (depth + 1))))
  | _, _, _ => []

def fieldBranches (cap : Nat) : List (String × Schema) → List (String × Json) → Nat →
    List (Step × Report)
  | [], _, _ => []
  | (name, rule) :: rest, members, depth =>
    (.field name, found cap rule (Members.get? name members) depth
      (Report.gather (branches cap rule (Members.get? name members) depth))) ::
    fieldBranches cap rest members depth

end

/-- Every mismatch of what is supplied at a place whose rule stands at the given depth of the schema. -/
def scan (cap : Nat) (rule : Schema) (input : Option Json) (depth : Nat) : Report :=
  found cap rule input depth (Report.gather (branches cap rule input depth))

theorem kindOf_eq_missing_iff {input : Option Json} : kindOf input = .missing ↔ input = none := by
  rcases input with _ | (_ | _ | _ | _ | _ | _) <;> simp [kindOf, Json.kind]

theorem kindOf_eq_null_iff {input : Option Json} : kindOf input = .null ↔ input = some .null := by
  rcases input with _ | (_ | _ | _ | _ | _ | _) <;> simp [kindOf, Json.kind]

theorem kindOf_eq_object_iff {input : Option Json} :
    kindOf input = .object ↔ ∃ members, input = some (.object members) := by
  rcases input with _ | (_ | _ | _ | _ | _ | _) <;> simp [kindOf, Json.kind]

theorem kindOf_eq_array_iff {input : Option Json} :
    kindOf input = .array ↔ ∃ items, input = some (.array items) := by
  rcases input with _ | (_ | _ | _ | _ | _ | _) <;> simp [kindOf, Json.kind]

/-- A property of indexed elements that takes no account of the index. -/
theorem forall_mem_zipIdx {α : Type} {items : List α} {p : α → Prop} :
    (∀ entry ∈ items.zipIdx, p entry.1) ↔ ∀ value ∈ items, p value := by
  rw [← List.forall_mem_map (f := Prod.fst), List.zipIdx_map_fst]

/-! ## Branches -/

theorem fieldBranches_eq_map (cap : Nat) (fields : List (String × Schema))
    (members : List (String × Json)) (depth : Nat) :
    fieldBranches cap fields members depth =
      fields.map fun field =>
        (.field field.1, scan cap field.2 (Members.get? field.1 members) depth) := by
  induction fields with
  | nil => rfl
  | cons field rest ih => rw [fieldBranches, ih]; rfl

theorem branches_construct (cap : Nat) (fields : List (String × Schema))
    (members : List (String × Json)) (depth : Nat) :
    branches cap (.construct fields) (some (.object members)) depth =
      fields.map fun field =>
        (.field field.1, scan cap field.2 (Members.get? field.1 members) (depth + 1)) := by
  rw [branches, fieldBranches_eq_map]

theorem branches_array (cap : Nat) (item : Schema) (items : List Json) (depth : Nat) :
    branches cap (.array item) (some (.array items)) depth =
      items.zipIdx.map fun entry => (.index entry.2, scan cap item (some entry.1) (depth + 1)) := by
  rw [branches]; rfl

theorem branches_of_primitive {rule : Schema} (h : rule.isPrimitive) (cap : Nat)
    (input : Option Json) (depth : Nat) : branches cap rule input depth = [] := by
  cases rule <;> first | rfl | cases h

namespace Report

@[simp] theorem gather_nil : gather [] = [] := rfl

@[simp] theorem gather_cons (branch : Step × Report) (rest : List (Step × Report)) :
    gather (branch :: rest) = branch.2.map (Mismatch.below [branch.1]) ++ gather rest := rfl

theorem gather_eq_nil_iff {branches : List (Step × Report)} :
    gather branches = [] ↔ ∀ branch ∈ branches, branch.2 = [] := by
  simp [gather, List.flatMap_eq_nil_iff]

/-- What is found further in stands further in. -/
theorem path_ne_nil_of_mem_gather {branches : List (Step × Report)} {m : Mismatch}
    (h : m ∈ gather branches) : m.path ≠ [] := by
  obtain ⟨branch, -, hm⟩ := List.mem_flatMap.mp h
  obtain ⟨inner, -, rfl⟩ := List.mem_map.mp hm
  simp

end Report

/-! ## The place itself -/

namespace Schema

/-- Whether the outermost rule is no layer. -/
def isBase : Schema → Bool
  | optional _ => false
  | nullable _ => false
  | _ => true

theorem isBase_of_primitive {rule : Schema} (h : rule.isPrimitive) : rule.isBase := by
  cases rule <;> first | rfl | cases h

theorem letsThrough_of_isBase {rule : Schema} (h : rule.isBase) (input : Option Json) :
    rule.letsThrough input = false := by
  cases rule <;> first | rfl | cases h

/-- What is there and is not `null` passes through every layer. -/
theorem letsThrough_of_ne_null (rule : Schema) {document : Json} (h : document ≠ .null) :
    rule.letsThrough (some document) = false := by
  cases rule with
  | nullable inner => cases document <;> first | rfl | exact absurd rfl h
  | string | number | boolean | construct | optional | array => rfl

theorem decider_of_isBase {rule : Schema} (h : rule.isBase) (input : Option Json) :
    rule.decider input = rule := by
  cases rule <;> first | rfl | cases h

theorem layersOver_of_isBase {rule : Schema} (h : rule.isBase) (input : Option Json) :
    rule.layersOver input = 0 := by
  cases rule <;> first | rfl | cases h

/-- The complaint about the cap is never that of a rule. -/
theorem complaint_ne_depthExceeded (rule : Schema) : rule.complaint ≠ .depthExceeded := by
  cases rule <;> simp [complaint]

end Schema

theorem LayerOver.of_letsThrough {rule : Schema} {input : Option Json}
    (h : rule.letsThrough input = true) : ∃ inner, LayerOver inner rule := by
  unfold Schema.letsThrough at h
  split at h
  · exact ⟨_, .optional⟩
  · exact ⟨_, .nullable⟩
  · cases h

namespace LayerOver

variable {inner rule : Schema} {input : Option Json} (h : LayerOver inner rule)
include h

theorem branches (cap : Nat) (input : Option Json) (depth : Nat) :
    branches cap rule input depth = JsonShape.branches cap inner input (depth + 1) := by
  cases h <;> rw [JsonShape.branches]

theorem decider (hn : rule.letsThrough input = false) : rule.decider input = inner.decider input := by
  cases h <;> rw [Schema.decider, if_neg (by simp [hn])]

theorem layersOver (hn : rule.letsThrough input = false) :
    rule.layersOver input = inner.layersOver input + 1 := by
  cases h <;> rw [Schema.layersOver, if_neg (by simp [hn])]

theorem decider_of_letsThrough (ht : rule.letsThrough input = true) : rule.decider input = rule := by
  cases h <;> rw [Schema.decider, if_pos ht]

theorem layersOver_of_letsThrough (ht : rule.letsThrough input = true) : rule.layersOver input = 0 := by
  cases h <;> rw [Schema.layersOver, if_pos ht]

end LayerOver

/-! ## Places with a base rule -/

/-- A base rule within the cap looks at the kind first. -/
theorem scan_base {cap : Nat} {rule : Schema} (hb : rule.isBase) (input : Option Json) {depth : Nat}
    (h : depth ≤ cap) :
    scan cap rule input depth =
      if kindOf input = rule.expected then Report.gather (branches cap rule input depth)
      else [⟨rule.complaint, rule.expected, kindOf input, []⟩] := by
  rw [scan, found, Schema.layersOver_of_isBase hb, if_neg (by omega), Schema.decider_of_isBase hb,
    Schema.letsThrough_of_isBase hb]
  rfl

/-- A base rule complains about an input of another kind. -/
theorem scan_of_kind_ne {cap depth : Nat} {rule : Schema} (hb : rule.isBase) (h : depth ≤ cap)
    {input : Option Json} (hk : kindOf input ≠ rule.expected) :
    scan cap rule input depth = [⟨rule.complaint, rule.expected, kindOf input, []⟩] := by
  rw [scan_base hb input h, if_neg hk]

theorem scan_base_eq_nil_iff {cap : Nat} {rule : Schema} (hb : rule.isBase) {input : Option Json}
    {depth : Nat} (h : depth ≤ cap) :
    scan cap rule input depth = [] ↔
      kindOf input = rule.expected ∧ Report.gather (branches cap rule input depth) = [] := by
  rw [scan_base hb input h]
  by_cases hk : kindOf input = rule.expected <;> simp [hk]

theorem scan_construct {cap depth : Nat} (h : depth ≤ cap) (fields : List (String × Schema))
    (members : List (String × Json)) :
    scan cap (.construct fields) (some (.object members)) depth =
      Report.gather (fields.map fun field =>
        (.field field.1, scan cap field.2 (Members.get? field.1 members) (depth + 1))) := by
  rw [scan_base rfl _ h, ← branches_construct]
  exact if_pos rfl

theorem scan_array {cap depth : Nat} (h : depth ≤ cap) (item : Schema) (items : List Json) :
    scan cap (.array item) (some (.array items)) depth =
      Report.gather (items.zipIdx.map fun entry =>
        (.index entry.2, scan cap item (some entry.1) (depth + 1))) := by
  rw [scan_base rfl _ h, ← branches_array]
  exact if_pos rfl

theorem gather_fields_eq_nil_iff {cap : Nat} {fields : List (String × Schema)}
    {members : List (String × Json)} {depth : Nat} :
    Report.gather (branches cap (.construct fields) (some (.object members)) depth) = [] ↔
      ∀ field ∈ fields, scan cap field.2 (Members.get? field.1 members) (depth + 1) = [] := by
  rw [branches_construct, Report.gather_eq_nil_iff, List.forall_mem_map]

theorem gather_items_eq_nil_iff {cap : Nat} {item : Schema} {items : List Json} {depth : Nat} :
    Report.gather (branches cap (.array item) (some (.array items)) depth) = [] ↔
      ∀ value ∈ items, scan cap item (some value) (depth + 1) = [] := by
  rw [branches_array, Report.gather_eq_nil_iff, List.forall_mem_map]
  exact forall_mem_zipIdx (p := fun value => scan cap item (some value) (depth + 1) = [])

theorem scan_construct_eq_nil_iff {cap : Nat} {fields : List (String × Schema)} {input : Option Json}
    {depth : Nat} (h : depth ≤ cap) :
    scan cap (.construct fields) input depth = [] ↔ ∃ members, input = some (.object members) ∧
      ∀ field ∈ fields, scan cap field.2 (Members.get? field.1 members) (depth + 1) = [] := by
  rw [scan_base_eq_nil_iff rfl h, Schema.expected, kindOf_eq_object_iff]
  constructor
  · rintro ⟨⟨members, rfl⟩, hi⟩
    exact ⟨members, rfl, gather_fields_eq_nil_iff.mp hi⟩
  · rintro ⟨members, rfl, hi⟩
    exact ⟨⟨members, rfl⟩, gather_fields_eq_nil_iff.mpr hi⟩

theorem scan_array_eq_nil_iff {cap : Nat} {item : Schema} {input : Option Json} {depth : Nat}
    (h : depth ≤ cap) :
    scan cap (.array item) input depth = [] ↔ ∃ items, input = some (.array items) ∧
      ∀ value ∈ items, scan cap item (some value) (depth + 1) = [] := by
  rw [scan_base_eq_nil_iff rfl h, Schema.expected, kindOf_eq_array_iff]
  constructor
  · rintro ⟨⟨items, rfl⟩, hi⟩
    exact ⟨items, rfl, gather_items_eq_nil_iff.mp hi⟩
  · rintro ⟨items, rfl, hi⟩
    exact ⟨⟨items, rfl⟩, gather_items_eq_nil_iff.mpr hi⟩

/-! ## Places with a layer -/

theorem scan_of_letsThrough {cap : Nat} {rule : Schema} {input : Option Json} {depth : Nat}
    (ht : rule.letsThrough input = true) (h : depth ≤ cap) : scan cap rule input depth = [] := by
  obtain ⟨inner, hl⟩ := LayerOver.of_letsThrough ht
  rw [scan, found, hl.layersOver_of_letsThrough ht, if_neg (by omega), hl.decider_of_letsThrough ht,
    if_pos ht]

/-- A layer that does not let the input through itself changes no more than the complaint about it. -/
theorem scan_layer {cap : Nat} {inner rule : Schema} (hl : LayerOver inner rule) {input : Option Json}
    (hn : rule.letsThrough input = false) (depth : Nat) :
    scan cap rule input depth =
      if cap < depth + 1 + inner.layersOver input then
        [⟨.depthExceeded, inner.expected, kindOf input, []⟩]
      else if (inner.decider input).letsThrough input then []
      else if kindOf input = inner.expected then Report.gather (branches cap inner input (depth + 1))
      else [⟨rule.complaint, inner.expected, kindOf input, []⟩] := by
  rw [scan, found, hl.layersOver hn, hl.decider hn, hl.branches, hl.expected,
    show depth + (inner.layersOver input + 1) = depth + 1 + inner.layersOver input by omega]

theorem scan_layer_eq_nil_iff {cap : Nat} {inner rule : Schema} (hl : LayerOver inner rule)
    {input : Option Json} (hn : rule.letsThrough input = false) (depth : Nat) :
    scan cap rule input depth = [] ↔ scan cap inner input (depth + 1) = [] := by
  rw [scan_layer hl hn, scan, found]
  repeat' split
  all_goals simp

end JsonShape
