import JsonShape.Proofs.Validation.Place

/-!
# Documents that are changed at a place

`Json.replaceAt` puts a document in the place of another one further in.  A document that conforms still does
after the change exactly if what is put there conforms to the rule of the place (`conforms_replaceAt_iff`); and
of an object, what stands under a declared name may be changed if it conforms to the rule of that field
(`conforms_iff_of_agree`).  So a key may be left out where the rule of its field may be missing, and be set to
`null` where that rule admits it.

For every place of a schema there is a document that conforms and has such a place (`exists_conforming_at`).
-/

namespace JsonShape

namespace Members

variable {α : Type}

/-- The entries with other names. -/
def without (name : String) (entries : List (String × α)) : List (String × α) :=
  entries.filter fun entry => entry.1 != name

theorem get?_without (name other : String) (entries : List (String × α)) :
    get? other (without name entries) = if name = other then none else get? other entries := by
  induction entries with
  | nil => simp [without, get?]
  | cons entry rest ih =>
    rw [without] at ih
    by_cases hn : entry.1 = name
    · rw [without, List.filter_cons_of_neg (by simp [hn]), ih, get?, hn]
      split <;> rfl
    · rw [without, List.filter_cons_of_pos (by simp [hn]), get?, get?, ih]
      by_cases ho : entry.1 = other
      · rw [if_pos ho, if_pos ho, if_neg (ho ▸ fun h => hn h.symm)]
      · rw [if_neg ho, if_neg ho]

theorem get?_put_self (name : String) (value : α) (entries : List (String × α)) :
    get? name (put name value entries) = some value := by
  rw [get?_put, if_pos rfl]

theorem get?_put_of_ne {name other : String} (value : α) (entries : List (String × α)) (h : name ≠ other) :
    get? other (put name value entries) = get? other entries := by
  rw [get?_put, if_neg h]

end Members

namespace Json

/-- The document with another value one step further in. -/
def put (document : Json) (step : Step) (value : Json) : Json :=
  match step, document with
  | .field name, object members => object (Members.put name value members)
  | .index i, array items => array (items.set i value)
  | _, document => document

/-- The document with another one in a place of it. -/
def replaceAt (document : Json) (path : Path) (new : Json) : Json :=
  match path with
  | [] => new
  | step :: rest =>
    match enter? (some document) step with
    | some (some inner) => document.put step (inner.replaceAt rest new)
    | _ => document

end Json

/-! ## One step further in -/

/-- To a document other than `null`, no layer makes a difference. -/
theorem conforms_base_iff {rule : Schema} {document : Json} (hn : document ≠ .null) :
    Conforms rule (some document) ↔ Conforms rule.base (some document) := by
  induction rule with
  | primitive rule hp => rw [Schema.base_of_isBase (Schema.isBase_of_primitive hp)]
  | construct fields _ => rfl
  | array item _ => rfl
  | layer inner rule hl ih => rw [hl.base, hl.conforms_iff_of_ne_null hn, ih]

section Object

variable {rule inner : Schema} {name : String} {members others : List (String × Json)}

/-- What an object has under a declared name conforms to the rule of the field. -/
theorem conforms_get? (hr : rule.inside? (.field name) = some inner)
    (hc : Conforms rule (some (.object members))) : Conforms inner (Members.get? name members) := by
  obtain ⟨fields, hb, hget⟩ := Schema.inside?_field_eq_some_iff.mp hr
  rw [conforms_base_iff (by simp), hb, conforms_construct_iff] at hc
  obtain ⟨_, he, hfields⟩ := hc
  obtain rfl := Json.object.inj (Option.some.inj he)
  exact hfields _ (Members.mem_of_get? hget)

/-- An object may be changed under a declared name to whatever conforms to the rule of the field. -/
theorem conforms_iff_of_agree (hd : rule.Distinct) (hr : rule.inside? (.field name) = some inner)
    (hc : Conforms rule (some (.object members)))
    (h : ∀ other, name ≠ other → Members.get? other others = Members.get? other members) :
    Conforms rule (some (.object others)) ↔ Conforms inner (Members.get? name others) := by
  refine ⟨conforms_get? hr, fun hnew => ?_⟩
  obtain ⟨fields, hb, hget⟩ := Schema.inside?_field_eq_some_iff.mp hr
  have hnodup := Schema.nodup_names_of_base hd hb
  rw [conforms_base_iff (by simp), hb, conforms_construct_iff] at hc ⊢
  obtain ⟨_, he, hfields⟩ := hc
  obtain rfl := Json.object.inj (Option.some.inj he)
  refine ⟨others, rfl, fun field hf => ?_⟩
  by_cases hname : name = field.1
  · have hrule := Members.get?_of_mem hnodup hf
    rw [← hname, hget] at hrule
    rwa [← Option.some.inj hrule, ← hname]
  · rw [h field.1 hname]
    exact hfields field hf

end Object

theorem conforms_array_base_iff {rule item : Schema} (hb : rule.base = .array item) {items : List Json} :
    Conforms rule (some (.array items)) ↔ ∀ value ∈ items, Conforms item (some value) := by
  rw [conforms_base_iff (by simp), hb, conforms_array_iff]
  simp

/-- What is supplied one step further in conforms to the rule there. -/
theorem conforms_inside {rule inner : Schema} {step : Step} (hr : rule.inside? step = some inner)
    {input supplied : Option Json} (hc : Conforms rule input) (hs : enter? input step = some supplied) :
    Conforms inner supplied := by
  unfold enter? at hs
  split at hs
  · rw [← Option.some.inj hs]
    exact conforms_get? hr hc
  · obtain ⟨value, hget, rfl⟩ := Option.map_eq_some_iff.mp hs
    exact (conforms_array_base_iff (Schema.inside?_index_eq_some_iff.mp hr)).mp hc value
      (List.mem_of_getElem? hget)
  · cases hs

/-- What stands one step further in may be replaced by whatever conforms to the rule there. -/
theorem conforms_put_iff {rule inner : Schema} (hd : rule.Distinct) {step : Step}
    (hr : rule.inside? step = some inner) {document old : Json} (hc : Conforms rule (some document))
    (hs : enter? (some document) step = some (some old)) (new : Json) :
    Conforms rule (some (document.put step new)) ↔ Conforms inner (some new) := by
  unfold enter? at hs
  -- a step leads to a field of an object or to an element of an array
  split at hs
  · rename_i members name heq
    obtain rfl := Option.some.inj heq
    rw [Json.put, conforms_iff_of_agree hd hr hc (fun _ => Members.get?_put_of_ne new members),
      Members.get?_put_self]
  · rename_i items i heq
    obtain rfl := Option.some.inj heq
    obtain ⟨value, hget, -⟩ := Option.map_eq_some_iff.mp hs
    have hb := Schema.inside?_index_eq_some_iff.mp hr
    have hi : i < items.length := (List.getElem?_eq_some_iff.mp hget).1
    have hitems := (conforms_array_base_iff hb).mp hc
    rw [Json.put, conforms_array_base_iff hb]
    constructor
    · intro h
      exact h new (List.mem_set hi new)
    · intro h value hv
      rcases List.mem_or_eq_of_mem_set hv with hv | rfl
      · exact hitems value hv
      · exact h
  · cases hs

/-! ## Any number of steps further in -/

/-- **What is supplied at a place conforms to the rule there.** -/
theorem conforms_at {rule inner : Schema} {path : Path} (hr : rule.at? path = some inner)
    {input supplied : Option Json} (hc : Conforms rule input) (hs : suppliedAt? input path = some supplied) :
    Conforms inner supplied := by
  induction path generalizing rule input with
  | nil =>
    obtain rfl := Option.some.inj hr
    obtain rfl := Option.some.inj hs
    exact hc
  | cons step rest ih =>
    obtain ⟨next, hnext, hrest⟩ := Option.bind_eq_some_iff.mp hr
    obtain ⟨value, henter, hvalue⟩ := Option.bind_eq_some_iff.mp hs
    exact ih hrest (conforms_inside hnext hc henter) hvalue

/-- There is nothing inside of what is missing. -/
theorem eq_none_of_missing {path : Path} {supplied : Option Json}
    (h : suppliedAt? none path = some supplied) : supplied = none := by
  cases path with
  | nil => exact (Option.some.inj h).symm
  | cons step rest => cases h

/-- **What stands at a place may be replaced by whatever conforms to the rule there.** -/
theorem conforms_replaceAt_iff {rule inner : Schema} (hd : rule.Distinct) {path : Path}
    (hr : rule.at? path = some inner) {document old : Json} (hc : Conforms rule (some document))
    (hs : suppliedAt? (some document) path = some (some old)) (new : Json) :
    Conforms rule (some (document.replaceAt path new)) ↔ Conforms inner (some new) := by
  induction path generalizing rule document with
  | nil =>
    obtain rfl := Option.some.inj hr
    rfl
  | cons step rest ih =>
    obtain ⟨next, hnext, hrest⟩ := Option.bind_eq_some_iff.mp hr
    obtain ⟨supplied, henter, hsupplied⟩ := Option.bind_eq_some_iff.mp hs
    cases supplied with
    | none => exact absurd (eq_none_of_missing hsupplied) (by simp)
    | some value =>
      have hinside := conforms_inside hnext hc henter
      rw [Json.replaceAt, henter]
      exact (conforms_put_iff hd hnext hc henter _).trans
        (ih (Schema.distinct_of_inside? hd hnext) hrest hinside hsupplied)

/-! ## Documents that have a place -/

namespace Schema

mutual

/-- A document that conforms: every field is there and no array is empty. -/
def sample : Schema → Json
  | string => .string ""
  | number => .number (.integer 0)
  | boolean => .bool false
  | construct fields => .object (sampleFields fields)
  | optional inner => sample inner
  | nullable inner => sample inner
  | array item => .array [sample item]

def sampleFields : List (String × Schema) → List (String × Json)
  | [] => []
  | (name, rule) :: rest => (name, sample rule) :: sampleFields rest

end

theorem get?_sampleFields (name : String) (fields : List (String × Schema)) :
    Members.get? name (sampleFields fields) = (Members.get? name fields).map sample := by
  induction fields with
  | nil => rfl
  | cons field rest ih =>
    rw [sampleFields, Members.get?, Members.get?, ih]
    split <;> rfl

theorem conforms_sample {rule : Schema} (hd : rule.Distinct) : Conforms rule (some rule.sample) := by
  induction rule with
  | primitive rule hp =>
    refine .primitive hp ?_
    cases rule with
    | string | number | boolean => rfl
    | construct | optional | nullable | array => cases hp
  | construct fields ih =>
    refine .construct fun field hf => ?_
    rw [get?_sampleFields, Members.get?_of_mem hd.1 hf]
    exact ih field hf (distinctFields_iff.mp hd.2 field hf)
  | array item ih =>
    rw [sample]
    exact .array (by simpa using ih hd)
  | layer inner rule hl ih =>
    have hsample : rule.sample = inner.sample := by cases hl <;> rw [sample]
    rw [hsample]
    exact hl.conforms (ih (hl.distinct hd))

theorem sample_base (rule : Schema) : rule.base.sample = rule.sample := by
  induction rule with
  | primitive rule hp => rw [base_of_isBase (isBase_of_primitive hp)]
  | construct fields _ => rfl
  | array item _ => rfl
  | layer inner rule hl ih => cases hl <;> rw [base, ih, sample]

/-- What conforms to the rule one step further in stands there in some document that conforms. -/
theorem exists_conforming_inside {rule inner : Schema} (hd : rule.Distinct) {step : Step}
    (hr : rule.inside? step = some inner) {value : Json} (hv : Conforms inner (some value)) :
    ∃ document, Conforms rule (some document) ∧ enter? (some document) step = some (some value) := by
  cases step with
  | field name =>
    obtain ⟨fields, hb, -⟩ := inside?_field_eq_some_iff.mp hr
    have hsample := conforms_sample hd
    rw [← sample_base, hb, sample] at hsample
    have hget := Members.get?_put_self name value (sampleFields fields)
    have hrest : ∀ other, name ≠ other → Members.get? other (Members.put name value (sampleFields fields)) =
        Members.get? other (sampleFields fields) :=
      fun other => Members.get?_put_of_ne value (sampleFields fields)
    refine ⟨_, (conforms_iff_of_agree hd hr hsample hrest).mpr (hget ▸ hv), ?_⟩
    rw [enter?, hget]
  | index i =>
    refine ⟨.array (List.replicate (i + 1) value), ?_, by simp [enter?]⟩
    rw [conforms_array_base_iff (inside?_index_eq_some_iff.mp hr)]
    intro item hi
    rwa [List.eq_of_mem_replicate hi]

/-- **For every place there is a document that conforms and has it**, with anything there that conforms. -/
theorem exists_conforming_at {rule inner : Schema} (hd : rule.Distinct) {path : Path}
    (hr : rule.at? path = some inner) {value : Json} (hv : Conforms inner (some value)) :
    ∃ document, Conforms rule (some document) ∧ suppliedAt? (some document) path = some (some value) := by
  induction path generalizing rule with
  | nil =>
    obtain rfl := Option.some.inj hr
    exact ⟨value, hv, rfl⟩
  | cons step rest ih =>
    obtain ⟨next, hnext, hrest⟩ := Option.bind_eq_some_iff.mp hr
    obtain ⟨between, hbetween, hsupplied⟩ := ih (distinct_of_inside? hd hnext) hrest
    obtain ⟨document, hdocument, henter⟩ := exists_conforming_inside hd hnext hbetween
    refine ⟨document, hdocument, ?_⟩
    rw [suppliedAt?, follow_cons, henter]
    exact hsupplied

end Schema

end JsonShape
