import JsonShape.Proofs.Validation.Scan

/-!
# The places one step further in

`Schema.inward` lists the places one step further in that a rule and an input have in common, whatever the
layers around the rule, and no cap plays a part in it.  The branches of a scan are the scans of these
places (`branches_eq_map_inward`), so what holds of a scan by way of the places further in is proved by
`Schema.induct_inward`.
-/

namespace JsonShape

/-- A place one step further in, with its rule and what is supplied there. -/
structure Inward where
  step : Step
  rule : Schema
  input : Option Json

namespace Schema

/-- The declared fields of an object, or the elements of an array. -/
def inward : Schema → Option Json → List Inward
  | optional inner, input => inward inner input
  | nullable inner, input => inward inner input
  | construct fields, some (.object members) =>
    fields.map fun field => ⟨.field field.1, field.2, Members.get? field.1 members⟩
  | array item, some (.array items) =>
    items.zipIdx.map fun entry => ⟨.index entry.2, item, some entry.1⟩
  | _, _ => []

/-- The number of layers around the base rule. -/
def layers : Schema → Nat
  | optional inner => layers inner + 1
  | nullable inner => layers inner + 1
  | _ => 0

theorem distinct_of_mem_inward {rule : Schema} (hd : rule.Distinct) {input : Option Json} {place : Inward}
    (h : place ∈ rule.inward input) : place.rule.Distinct := by
  fun_induction inward rule input with
  | case1 inner input ih => exact ih hd h
  | case2 inner input ih => exact ih hd h
  | case3 fields members =>
    obtain ⟨field, hf, rfl⟩ := List.mem_map.mp h
    exact distinctFields_iff.mp hd.2 field hf
  | case4 item items =>
    obtain ⟨entry, -, rfl⟩ := List.mem_map.mp h
    exact hd
  | case5 => cases h

/-- No two places one step further in have the same step. -/
theorem nodup_steps_inward {rule : Schema} (hd : rule.Distinct) (input : Option Json) :
    ((rule.inward input).map Inward.step).Nodup := by
  fun_induction inward rule input with
  | case1 inner input ih => exact ih hd
  | case2 inner input ih => exact ih hd
  | case3 fields members =>
    have hs : (fields.map fun field =>
        (⟨.field field.1, field.2, Members.get? field.1 members⟩ : Inward)).map Inward.step =
          (Members.names fields).map Step.field := by
      simp [Members.names, Function.comp_def]
    rw [hs]
    exact List.Pairwise.map Step.field (fun a b hab e => hab (Step.field.inj e)) hd.1
  | case4 item items =>
    have hs : (items.zipIdx.map fun entry => (⟨.index entry.2, item, some entry.1⟩ : Inward)).map
        Inward.step = (items.zipIdx.map Prod.snd).map Step.index := by
      simp only [List.map_map, Function.comp_def]
    rw [hs, List.zipIdx_map_snd]
    exact List.Pairwise.map Step.index (fun a b hab e => hab (Step.index.inj e)) List.nodup_range'
  | case5 => exact List.nodup_nil

/-- The rule further in and the layers on the way to it make up less than the depth. -/
theorem depth_add_layers_lt_of_mem_inward {rule : Schema} {input : Option Json} {place : Inward}
    (h : place ∈ rule.inward input) : place.rule.depth + rule.layers < rule.depth := by
  fun_induction inward rule input with
  | case1 inner input ih | case2 inner input ih =>
    have := ih h
    rw [depth, layers]
    omega
  | case3 fields members =>
    obtain ⟨field, hf, rfl⟩ := List.mem_map.mp h
    exact depth_lt_construct hf
  | case4 item items =>
    obtain ⟨entry, -, rfl⟩ := List.mem_map.mp h
    show item.depth < 1 + item.depth
    omega
  | case5 => cases h

theorem depth_lt_of_mem_inward {rule : Schema} {input : Option Json} {place : Inward}
    (h : place ∈ rule.inward input) : place.rule.depth < rule.depth := by
  have := depth_add_layers_lt_of_mem_inward h
  omega

/-- What holds of a place if it holds of the places one step further in holds everywhere. -/
@[elab_as_elim]
theorem induct_inward {motive : Schema → Option Json → Prop}
    (step : ∀ rule input, (∀ place ∈ rule.inward input, motive place.rule place.input) →
      motive rule input) (rule : Schema) (input : Option Json) : motive rule input :=
  step rule input fun place _ => induct_inward step place.rule place.input
termination_by rule.depth
decreasing_by exact depth_lt_of_mem_inward ‹_›

end Schema

/-- The branches of a scan are the scans of the places one step further in. -/
theorem branches_eq_map_inward (cap : Nat) (rule : Schema) (input : Option Json) (depth : Nat) :
    branches cap rule input depth = (rule.inward input).map fun place =>
      (place.step, scan cap place.rule place.input (depth + rule.layers + 1)) := by
  fun_induction Schema.inward rule input generalizing depth with
  | case1 inner input ih | case2 inner input ih =>
    rw [branches, ih, Schema.layers, show depth + (inner.layers + 1) = depth + 1 + inner.layers by omega]
  | case3 fields members =>
    rw [branches_construct, List.map_map]
    rfl
  | case4 item items =>
    rw [branches_array, List.map_map]
    rfl
  | case5 rule input ho hn hc ha =>
    rw [branches.eq_5 cap rule input depth ho hn hc ha]
    rfl

end JsonShape
