import JsonShape.Proofs.Schema.Induction

/-!
# The records in a schema

`Schema.records` lists the fields of every record in a schema, an outer record before the ones in its fields,
and `Schema.declaredNames` are the names in them.
-/

namespace JsonShape.Schema

mutual

/-- The fields of each record, those of an outer one before those of the records in it. -/
def records : Schema → List (List (String × Schema))
  | construct fields => fields :: recordsOfFields fields
  | optional inner => records inner
  | nullable inner => records inner
  | array item => records item
  | _ => []

def recordsOfFields : List (String × Schema) → List (List (String × Schema))
  | [] => []
  | (_, rule) :: rest => records rule ++ recordsOfFields rest

end

/-- The names of all declared fields. -/
def declaredNames (rule : Schema) : List String := rule.records.flatMap Members.names

theorem records_of_primitive {rule : Schema} (h : rule.isPrimitive) : rule.records = [] := by
  cases rule <;> first | rfl | cases h

theorem records_of_child {inner rule : Schema} (h : rule.child? = some inner) : rule.records = inner.records := by
  cases rule with
  | optional | nullable | array =>
    cases h
    rw [records]
  | string | number | boolean | construct => cases h

theorem recordsOfFields_eq (fields : List (String × Schema)) :
    recordsOfFields fields = fields.flatMap fun field => field.2.records := by
  induction fields with
  | nil => rfl
  | cons field rest ih => rw [recordsOfFields, ih, List.flatMap_cons]

theorem declaredNames_of_child {inner rule : Schema} (h : rule.child? = some inner) :
    rule.declaredNames = inner.declaredNames := by
  rw [declaredNames, records_of_child h, declaredNames]

/-- A name is declared by a record or by one of the rules of its fields. -/
theorem mem_declaredNames_construct {fields : List (String × Schema)} {name : String} :
    name ∈ (construct fields).declaredNames ↔
      name ∈ Members.names fields ∨ ∃ field ∈ fields, name ∈ field.2.declaredNames := by
  simp only [declaredNames, records, recordsOfFields_eq, List.flatMap_cons, List.mem_append, List.mem_flatMap]
  refine or_congr_right ⟨?_, ?_⟩
  · rintro ⟨record, ⟨field, hf, hr⟩, hn⟩
    exact ⟨field, hf, record, hr, hn⟩
  · rintro ⟨field, hf, record, hr, hn⟩
    exact ⟨record, ⟨field, hf, hr⟩, hn⟩

end JsonShape.Schema
