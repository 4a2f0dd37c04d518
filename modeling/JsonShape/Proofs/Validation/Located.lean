import JsonShape.Proofs.Validation.Parse
import JsonShape.Proofs.Validation.Place
import Mathlib.Data.List.Induction

/-!
# Where mismatches stand

The path of a mismatch leads through the schema and through the input to one and the same place, and what the
mismatch says is true of that place: the kind that the rule there expects, the kind of what is supplied there,
and, unless it is about the cap, that the one is not the other and is not let through by a layer either.

A scan finds a mismatch at its own place or one step further in (`mem_scan`), so this follows step by step
(`scan_located`).
-/

namespace JsonShape

/-- What lets an input through outright is a layer that admits it, at any number of layers from the outside. -/
theorem Schema.decider_letsThrough_iff {rule : Schema} {input : Option Json} :
    (rule.decider input).letsThrough input = true ↔
      (input = none ∧ rule.admitsMissing = true) ∨ (input = some .null ∧ rule.admitsNull = true) := by
  induction rule with
  | primitive rule hp =>
    rw [decider_of_isBase (isBase_of_primitive hp), letsThrough_of_isBase (isBase_of_primitive hp)]
    cases rule with
    | string | number | boolean => simp [admitsMissing, admitsNull]
    | construct | optional | nullable | array => cases hp
  | construct fields _ => simp [decider, letsThrough, admitsMissing, admitsNull]
  | array item _ => simp [decider, letsThrough, admitsMissing, admitsNull]
  | layer inner rule hl ih =>
    -- a layer that admits the input decides, and any other leaves it to the rule inside
    by_cases ht : rule.letsThrough input = true
    · rw [hl.decider_of_letsThrough ht]
      refine iff_of_true ht ?_
      unfold letsThrough at ht
      split at ht
      · exact .inl ⟨rfl, rfl⟩
      · exact .inr ⟨rfl, rfl⟩
      · cases ht
    · rw [hl.decider (by simpa using ht), ih]
      cases hl with
      | optional =>
        have hn : input ≠ none := by rintro rfl; exact ht rfl
        simp [admitsNull, hn]
      | nullable =>
        have hn : input ≠ some .null := by rintro rfl; exact ht rfl
        simp [admitsMissing, hn]

/-- A mismatch that stands at the place of a rule and is right about it. -/
structure Mismatch.IsAbout (m : Mismatch) (rule : Schema) (supplied : Option Json) : Prop where
  expected : rule.expected = m.expected
  received : kindOf supplied = m.received
  real : m.complaint ≠ .depthExceeded → m.received ≠ m.expected ∧
    (rule.admitsMissing = true → m.received ≠ .missing) ∧ (rule.admitsNull = true → m.received ≠ .null)

/-- A mismatch stands at the place that is scanned or further in, below one of the places one step away. -/
theorem mem_scan {cap : Nat} {rule : Schema} {input : Option Json} {depth : Nat} {m : Mismatch}
    (h : m ∈ scan cap rule input depth) :
    (m.path = [] ∧ m.IsAbout rule input) ∨ ∃ place ∈ rule.inward input,
      ∃ inner ∈ scan cap place.rule place.input (depth + rule.layers + 1), m = inner.below [place.step] := by
  rw [scan, found, branches_eq_map_inward] at h
  -- the scan ends at the cap, is done with what is let through, goes further in, or complains about the kind
  split at h
  · obtain rfl := List.mem_singleton.mp h
    exact .inl ⟨rfl, rfl, rfl, fun he => absurd rfl he⟩
  split at h
  · cases h
  rename_i hn
  split at h
  · obtain ⟨branch, hb, hm⟩ := List.mem_flatMap.mp h
    obtain ⟨place, hp, rfl⟩ := List.mem_map.mp hb
    obtain ⟨inner, hi, rfl⟩ := List.mem_map.mp hm
    exact .inr ⟨place, hp, inner, hi, rfl⟩
  · rename_i hk
    obtain rfl := List.mem_singleton.mp h
    rw [Schema.decider_letsThrough_iff, not_or] at hn
    refine .inl ⟨rfl, rfl, rfl, fun _ => ⟨hk, fun ha hm => ?_, fun ha hm => ?_⟩⟩
    · exact hn.1 ⟨kindOf_eq_missing_iff.mp hm, ha⟩
    · exact hn.2 ⟨kindOf_eq_null_iff.mp hm, ha⟩

/-- **Every mismatch of a scan stands at a place** of the schema and of the input, and is right about it. -/
theorem scan_located {cap : Nat} {rule : Schema} (hd : rule.Distinct) {input : Option Json} {depth : Nat}
    {m : Mismatch} (h : m ∈ scan cap rule input depth) : ∃ inner supplied,
      rule.at? m.path = some inner ∧ suppliedAt? input m.path = some supplied ∧ m.IsAbout inner supplied := by
  induction rule, input using Schema.induct_inward generalizing depth m with
  | step rule input ih =>
    rcases mem_scan h with ⟨hpath, habout⟩ | ⟨place, hp, below, hb, rfl⟩
    · exact ⟨rule, input, by rw [hpath]; rfl, by rw [hpath]; rfl, habout⟩
    · obtain ⟨hrule, hinput⟩ := Schema.enter_of_mem_inward hd hp
      obtain ⟨inner, supplied, hat, hsupplied, habout⟩ :=
        ih place hp (Schema.distinct_of_mem_inward hd hp) hb
      refine ⟨inner, supplied, ?_, ?_, ⟨habout.expected, habout.received, habout.real⟩⟩
      · show follow _ rule (place.step :: below.path) = _
        rw [follow_cons, hrule]
        exact hat
      · show follow _ input (place.step :: below.path) = _
        rw [follow_cons, hinput]
        exact hsupplied

theorem enter?_eq_none_iff {input : Option Json} {step : Step} :
    enter? input step = some none ↔ ∃ name members, step = .field name ∧
      input = some (.object members) ∧ Members.get? name members = none := by
  constructor
  · intro h
    unfold enter? at h
    split at h
    · exact ⟨_, _, rfl, rfl, Option.some.inj h⟩
    · obtain ⟨_, -, hv⟩ := Option.map_eq_some_iff.mp h
      cases hv
    · cases h
  · rintro ⟨name, members, rfl, rfl, h⟩
    exact congrArg some h

/-- Only a key that its object lacks is missing, or the input as a whole. -/
theorem missing_at {input : Option Json} {path : Path} (h : suppliedAt? input path = some none) :
    (path = [] ∧ input = none) ∨ ∃ outer name members, path = outer ++ [.field name] ∧
      suppliedAt? input outer = some (some (.object members)) ∧ Members.get? name members = none := by
  cases path using List.reverseRecOn with
  | nil => exact .inl ⟨rfl, Option.some.inj h⟩
  | append_singleton outer step =>
    rw [suppliedAt?, follow_concat] at h
    obtain ⟨container, hcontainer, hstep⟩ := Option.bind_eq_some_iff.mp h
    obtain ⟨name, members, rfl, rfl, hget⟩ := enter?_eq_none_iff.mp hstep
    exact .inr ⟨outer, name, members, rfl, hcontainer, hget⟩

/-- **Every reported mismatch points at a real one**: its path leads to a rule in the schema and to a place in
the input that is there, or is a key that its object lacks, and of these two it tells the truth. -/
theorem mismatches_located {rule : Schema} (hd : rule.Distinct) {input : Option Json} {cap : Nat}
    {report : Report} (h : rule.parse input cap = .error report) {m : Mismatch} (hm : m ∈ report) :
    ∃ inner supplied,
      -- the rule and the place that the path leads to
      rule.at? m.path = some inner ∧ suppliedAt? input m.path = some supplied ∧
      -- the kinds that the mismatch is about are those of the two
      m.expected = inner.expected ∧ m.received = kindOf supplied ∧
      -- missing is the input as a whole, or a key of an object that is there
      (m.received = .missing → (m.path = [] ∧ input = none) ∨ ∃ outer name members,
        m.path = outer ++ [.field name] ∧ suppliedAt? input outer = some (some (.object members)) ∧
          Members.get? name members = none) ∧
      -- and unless it is about the cap, the place is not what the rule wants or admits
      (m.complaint ≠ .depthExceeded → m.received ≠ m.expected ∧
        (inner.admitsMissing = true → m.received ≠ .missing) ∧
        (inner.admitsNull = true → m.received ≠ .null)) := by
  obtain ⟨rfl, -⟩ := parse_eq_error_iff.mp h
  obtain ⟨inner, supplied, hat, hsupplied, habout⟩ := scan_located hd hm
  refine ⟨inner, supplied, hat, hsupplied, habout.expected.symm, habout.received.symm, fun hmissing => ?_,
    habout.real⟩
  obtain rfl := kindOf_eq_missing_iff.mp (habout.received.trans hmissing)
  exact missing_at hsupplied

/-- The complaint is that of the outer layer, and it stands in an array after an element that is let through. -/
theorem mismatches_located_sample :
    let rule : Schema := .construct [("tags", .array (.nullable (.optional .number)))]
    let input : Json := .object [("tags", .array [.null, .string "x"])]
    let m : Mismatch := ⟨.unexpectedNull, .number, .string, [.field "tags", .index 1]⟩
    rule.Distinct ∧ rule.parse (some input) 5 = .error [m] ∧
      ∃ inner supplied, rule.at? m.path = some inner ∧ suppliedAt? (some input) m.path = some supplied ∧
        .number = inner.expected ∧ .string = kindOf supplied := by
  intro rule input m
  have hd : rule.Distinct := by
    simp [rule, Schema.Distinct, Schema.DistinctFields, Members.names]
  have hparse : rule.parse (some input) 5 = .error [m] := rfl
  obtain ⟨inner, supplied, hat, hsupplied, hexpected, hreceived, -⟩ :=
    mismatches_located hd hparse (List.mem_singleton_self m)
  exact ⟨hd, hparse, inner, supplied, hat, hsupplied, hexpected, hreceived⟩

end JsonShape
