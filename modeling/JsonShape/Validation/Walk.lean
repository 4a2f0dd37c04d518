import JsonShape.Schema.Basic
import JsonShape.Mismatch.Basic

/-!
# Validation

A document is checked against a schema by a walk over both.  The walk keeps the path to the place it is
at and a log of the mismatches found so far; it goes on after a mismatch, so that one walk finds them
all.  `visit` checks one place and answers with the value found there, reduced to what the schema
declares, or with nothing if it has logged a mismatch.

A wrapper rule whose inner rule fails at the very place where both stand speaks for the inner rule: its
own complaint replaces what the inner rule logged.  Mismatches further down, and places beyond the
cap on the depth of the schema, are left as they were logged.

What is checked is missing (`none`) or a document, and `null` is one of the documents (`some .null`).  An input that
is `null` and is handed in as if it were some other document has no form of its own here: whatever makes an input of a
document or of a field tells `null` from the others, so no walk is ever at such an input.

* `Schema.parse` checks what is supplied, which may be missing, and reports.
* `Schema.parseValue` does so for a document, and writes an absent result as `null`.
-/

namespace JsonShape

/-- The state of a walk: the path to the present place, and the mismatches logged so far. -/
structure Walk where
  path : Path
  log : Report

namespace Walk

def start : Walk := ⟨[], []⟩

/-- Logs a mismatch at the present place. -/
def fail (w : Walk) (complaint : Complaint) (expected received : Kind) : Walk :=
  { w with log := w.log ++ [⟨complaint, expected, received, w.path⟩] }

/-- Goes one step in and, after the check, back out. -/
def within {α : Type} (w : Walk) (step : Step) (check : Walk → α × Walk) : α × Walk :=
  let (result, inner) := check { w with path := w.path ++ [step] }
  (result, { inner with path := inner.path.dropLast })

/-- Whether a mismatch stands at the present place and not for an exceeded cap. -/
def isHere (w : Walk) (m : Mismatch) : Bool :=
  m.path.length == w.path.length && m.complaint != .depthExceeded

/-- Replaces what was logged since `mark` by one mismatch, if all of that stands here. -/
def collapse (w : Walk) (mark : Nat) (complaint : Complaint) (expected received : Kind) : Walk :=
  if (w.log.drop mark).all w.isHere then
    { w with log := w.log.take mark }.fail complaint expected received
  else w

end Walk

/-- What a check finds: nothing after a mismatch, and otherwise a value or an absence. -/
abbrev Outcome : Type := Option (Option Json)

/-- Checks a value of a primitive kind. -/
def visitPrimitive (expected : Kind) (input : Option Json) (w : Walk) : Outcome × Walk :=
  if kindOf input = expected then (some input, w)
  else (none, w.fail .invalidType expected (kindOf input))

/-- Lets a wrapper rule speak for its inner rule after the check of the inner rule. -/
def visitWrapped (complaint : Complaint) (expected : Kind) (input : Option Json)
    (check : Walk → Outcome × Walk) (w : Walk) : Outcome × Walk :=
  match check w with
  | (some result, after) => (some result, after)
  | (none, after) => (none, after.collapse w.log.length complaint expected (kindOf input))

/-- Checks the elements of an array from the given index on; an absent element becomes `null`. -/
def visitItems (check : Option Json → Walk → Outcome × Walk) (index : Nat) :
    List Json → Walk → Option (List Json) × Walk
  | [], w => (some [], w)
  | item :: rest, w =>
    let (first, w) := w.within (.index index) (check (some item))
    let (others, w) := visitItems check (index + 1) rest w
    match first, others with
    | some result, some results => (some (result.getD .null :: results), w)
    | _, _ => (none, w)

mutual

/-- Checks the place that the walk is at against a rule at the given depth of the schema. -/
def visit (cap : Nat) (rule : Schema) (input : Option Json) (depth : Nat) (w : Walk) :
    Outcome × Walk :=
  if cap < depth then (none, w.fail .depthExceeded rule.expected (kindOf input))
  else
    match rule with
    | .string => visitPrimitive .string input w
    | .number => visitPrimitive .number input w
    | .boolean => visitPrimitive .boolean input w
    | .construct fields =>
      match input with
      | some (.object members) =>
        let (result, w) := visitFields cap fields members (depth + 1) w
        (result.map fun members => some (.object members), w)
      | _ => (none, w.fail .notAStructure .object (kindOf input))
    | .array item =>
      match input with
      | some (.array items) =>
        let (result, w) := visitItems (fun input => visit cap item input (depth + 1)) 0 items w
        (result.map fun items => some (.array items), w)
      | _ => (none, w.fail .notASequence .array (kindOf input))
    | .optional inner =>
      match input with
      | none => (some none, w)
      | some _ =>
        visitWrapped .unexpectedAbsence inner.expected input (visit cap inner input (depth + 1)) w
    | .nullable inner =>
      match input with
      | some .null => (some (some .null), w)
      | _ => visitWrapped .unexpectedNull inner.expected input (visit cap inner input (depth + 1)) w

/-- Checks the declared fields of an object in their order; an absent field is left out. -/
def visitFields (cap : Nat) (fields : List (String × Schema)) (members : List (String × Json))
    (depth : Nat) (w : Walk) : Option (List (String × Json)) × Walk :=
  match fields with
  | [] => (some [], w)
  | (name, rule) :: rest =>
    let (first, w) :=
      w.within (.field name) (visit cap rule (Members.get? name members) depth)
    let (others, w) := visitFields cap rest members depth w
    match first, others with
    | some (some result), some results => (some ((name, result) :: results), w)
    | some none, some results => (some results, w)
    | _, _ => (none, w)

end

namespace Schema

/-- The depth of schema that is followed unless a cap is given. -/
def defaultCap : Nat := 64

/-- Checks what is supplied: the value that the schema makes of it, or every mismatch. -/
def parse (rule : Schema) (input : Option Json) (cap : Nat) : Except Report (Option Json) :=
  match visit cap rule input 1 Walk.start with
  | (some result, ⟨_, []⟩) => .ok result
  | (_, w) => .error w.log

/-- Checks a document. -/
def parseValue (rule : Schema) (document : Json) (cap : Nat) : Except Report Json :=
  (rule.parse (some document) cap).map fun result => result.getD .null

end Schema

end JsonShape
