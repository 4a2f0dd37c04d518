import JsonShape.Proofs.Validation.Inward
import JsonShape.Proofs.Validation.Pruning

/-!
# Places

A path leads to a place in whatever can be entered step by step.

* `follow` goes along a path, and `follow_simulates` carries what a single step keeps along the whole of it.
* `Schema.at?` is the rule at a place.  Layers are looked through: a name leads to a declared field of the
  record under them, an index to the elements of the array.
* `suppliedAt?` is what is supplied at a place of an input.  All objects and arrays on the way have to be there,
  so only a key at the end of the path may be missing.
-/

namespace JsonShape

/-- Goes along a path, one step after another. -/
def follow {σ : Type} (enter : σ → Step → Option σ) (start : σ) (path : Path) : Option σ :=
  path.foldlM enter start

section Follow

variable {σ τ : Type} {enter : σ → Step → Option σ} {enter' : τ → Step → Option τ}

@[simp] theorem follow_nil (start : σ) : follow enter start [] = some start := rfl

@[simp] theorem follow_cons (start : σ) (step : Step) (path : Path) :
    follow enter start (step :: path) = (enter start step).bind fun inner => follow enter inner path := rfl

theorem follow_append (start : σ) (path more : Path) :
    follow enter start (path ++ more) =
      (follow enter start path).bind fun inner => follow enter inner more :=
  List.foldlM_append

theorem follow_concat (start : σ) (path : Path) (step : Step) :
    follow enter start (path ++ [step]) = (follow enter start path).bind fun last => enter last step := by
  simp only [follow_append, follow_cons, follow_nil, Option.bind_fun_some]

/-- If every step on the one side can be taken on the other side too, so can every path. -/
theorem follow_simulates {related : σ → τ → Prop}
    (h : ∀ a b, related a b → ∀ step a', enter a step = some a' → ∃ b', enter' b step = some b' ∧ related a' b')
    {path : Path} {a a' : σ} {b : τ} (hab : related a b) (ha : follow enter a path = some a') :
    ∃ b', follow enter' b path = some b' ∧ related a' b' := by
  induction path generalizing a b with
  | nil =>
    obtain rfl := Option.some.inj ha
    exact ⟨b, rfl, hab⟩
  | cons step rest ih =>
    obtain ⟨between, hstep, hrest⟩ := Option.bind_eq_some_iff.mp ha
    obtain ⟨b', hb, hrelated⟩ := h a b hab step between hstep
    rw [follow_cons, hb]
    exact ih hrelated hrest

end Follow

/-- What is supplied one step further in. -/
def enter? : Option Json → Step → Option (Option Json)
  | some (.object members), .field name => some (Members.get? name members)
  | some (.array items), .index i => items[i]?.map some
  | _, _ => none

/-- What is supplied at a place, which may be missing there. -/
def suppliedAt? (input : Option Json) (path : Path) : Option (Option Json) := follow enter? input path

namespace Schema

/-- The rule under all layers. -/
def base : Schema → Schema
  | optional inner => base inner
  | nullable inner => base inner
  | rule => rule

/-- The rule one step further in. -/
def inside? (rule : Schema) : Step → Option Schema
  | .field name => rule.base.fields?.bind (Members.get? name)
  | .index _ => rule.base.child?

/-- The rule at a place. -/
def at? (rule : Schema) (path : Path) : Option Schema := follow inside? rule path

theorem base_of_isBase {rule : Schema} (h : rule.isBase) : rule.base = rule := by
  cases rule <;> first | rfl | cases h

theorem inside?_field_eq_some_iff {rule inner : Schema} {name : String} :
    rule.inside? (.field name) = some inner ↔
      ∃ fields, rule.base = construct fields ∧ Members.get? name fields = some inner := by
  rw [inside?]
  cases rule.base <;> simp [fields?]

theorem isBase_base (rule : Schema) : rule.base.isBase := by
  induction rule with
  | primitive rule hp =>
    have hb := isBase_of_primitive hp
    rwa [base_of_isBase hb]
  | construct fields _ => rfl
  | array item _ => rfl
  | layer inner rule hl ih => cases hl <;> exact ih

theorem inside?_index_eq_some_iff {rule inner : Schema} {i : Nat} :
    rule.inside? (.index i) = some inner ↔ rule.base = array inner := by
  have hb := rule.isBase_base
  rw [inside?]
  cases hr : rule.base with
  | optional | nullable => rw [hr] at hb; cases hb
  | _ => simp [child?]

end Schema

theorem LayerOver.base {inner rule : Schema} (h : LayerOver inner rule) : rule.base = inner.base := by
  cases h <;> rw [Schema.base]

namespace Schema

theorem distinct_base {rule : Schema} (h : rule.Distinct) : rule.base.Distinct := by
  induction rule with
  | primitive rule hp => rwa [base_of_isBase (isBase_of_primitive hp)]
  | construct fields _ => exact h
  | array item _ => exact h
  | layer inner rule hl ih =>
    rw [hl.base]
    exact ih (hl.distinct h)

theorem nodup_names_of_base {rule : Schema} (hd : rule.Distinct) {fields : List (String × Schema)}
    (hb : rule.base = construct fields) : (Members.names fields).Nodup := by
  have h := distinct_base hd
  rw [hb] at h
  exact h.1

theorem distinct_of_inside? {rule inner : Schema} (h : rule.Distinct) {step : Step}
    (hi : rule.inside? step = some inner) : inner.Distinct := by
  have hb := distinct_base h
  cases step with
  | field name =>
    obtain ⟨fields, hr, hget⟩ := inside?_field_eq_some_iff.mp hi
    rw [hr] at hb
    exact distinctFields_iff.mp hb.2 _ (Members.mem_of_get? hget)
  | index i =>
    rw [inside?_index_eq_some_iff.mp hi] at hb
    exact hb

theorem distinct_of_at? {rule inner : Schema} (h : rule.Distinct) {path : Path}
    (hp : rule.at? path = some inner) : inner.Distinct := by
  induction path generalizing rule with
  | nil =>
    obtain rfl := Option.some.inj hp
    exact h
  | cons step rest ih =>
    obtain ⟨next, hnext, hrest⟩ := Option.bind_eq_some_iff.mp hp
    exact ih (distinct_of_inside? h hnext) hrest

end Schema

theorem Members.get?_of_mem {α : Type} {entries : List (String × α)} (hn : (names entries).Nodup)
    {entry : String × α} (h : entry ∈ entries) : get? entry.1 entries = some entry.2 := by
  induction entries with
  | nil => cases h
  | cons first rest ih =>
    obtain ⟨hfirst, hrest⟩ : first.1 ∉ names rest ∧ (names rest).Nodup := List.nodup_cons.mp hn
    rcases List.mem_cons.mp h with rfl | h
    · exact if_pos rfl
    · have hne : first.1 ≠ entry.1 := fun he => hfirst (he ▸ List.mem_map_of_mem h)
      exact (if_neg hne).trans (ih hrest h)

theorem Members.get?_map {α β : Type} (f : α → β) (name : String) (entries : List (String × α)) :
    get? name (entries.map fun entry => (entry.1, f entry.2)) = (get? name entries).map f := by
  induction entries with
  | nil => rfl
  | cons entry rest ih =>
    rw [List.map_cons, get?, get?, ih]
    split <;> rfl

/-- The places one step further in are entered by their steps. -/
theorem Schema.enter_of_mem_inward {rule : Schema} (hd : rule.Distinct) {input : Option Json}
    {place : Inward} (h : place ∈ rule.inward input) :
    rule.inside? place.step = some place.rule ∧ enter? input place.step = some place.input := by
  fun_induction inward rule input with
  | case1 inner input ih => exact ih hd h
  | case2 inner input ih => exact ih hd h
  | case3 fields members =>
    obtain ⟨field, hf, rfl⟩ := List.mem_map.mp h
    exact ⟨Members.get?_of_mem hd.1 hf, rfl⟩
  | case4 item items =>
    obtain ⟨entry, he, rfl⟩ := List.mem_map.mp h
    have hget : items[entry.2]? = some entry.1 := List.mem_zipIdx_iff_getElem?.mp he
    exact ⟨rfl, by rw [enter?, hget]; rfl⟩
  | case5 => cases h

end JsonShape
