import JsonShape.CommandLine.Inputs
import JsonShape.Validation.Walk

/-!
# Reports of a check

The outcome of a document is what a schema makes of it, or its mismatches.  Outcomes are reported as
text, one heading a document with its mismatches below, or as JSON, one object a line.
-/

namespace JsonShape

/-- What became of a document. -/
structure DocumentOutcome where
  label : String
  result : Except Report (Option Json)

namespace DocumentOutcome

/-- What a schema makes of a document. -/
def ofDocument (schema : Schema) (cap : Nat) (document : Document) : DocumentOutcome :=
  ⟨document.label, schema.parse document.value cap⟩

def passed (o : DocumentOutcome) : Bool := o.result.isOk

/-- A text with a code put after every code in it that switches all styles off. -/
def restyled (code : List Char) : List Char → List Char
  | '\x1b' :: '[' :: '0' :: 'm' :: rest => ['\x1b', '[', '0', 'm'] ++ code ++ restyled code rest
  | c :: rest => c :: restyled code rest
  | [] => []

/-- A text between the codes that switch a style of the terminal on and off.  If the text itself
switches it off, it is switched on again. -/
def styled (color : Bool) (style text : String) : String :=
  let code := "\x1b[" ++ style ++ "m"
  if color then code ++ String.ofList (restyled code.toList text.toList) ++ "\x1b[0m" else text

def mismatchLine (color : Bool) (m : Mismatch) : String :=
  "    " ++ styled color "33" m.place ++ " " ++ m.complaint.name ++ " expected " ++
    m.expected.name ++ ", received " ++ m.received.name ++ "\n"

/-- The outcome as text; the value is written if it is asked for. -/
def text (color emit : Bool) (o : DocumentOutcome) : String :=
  match o.result with
  | .ok value =>
    styled color "1;32" "ok  " ++ " " ++ o.label ++ "\n" ++
      if emit then (value.getD .null).compact ++ "\n" else ""
  | .error report =>
    styled color "1;31" "FAIL" ++ " " ++ o.label ++ " (" ++ toString report.length ++
      " error(s))\n" ++ String.join (report.map (mismatchLine color))

/-- The outcome as a document of its own; the value is part of it if it is asked for. -/
def toJson (emit : Bool) (o : DocumentOutcome) : Json :=
  match o.result with
  | .ok value =>
    .object ([("document", .string o.label), ("valid", .bool true)] ++
      if emit then [("value", value.getD .null)] else [])
  | .error report =>
    .object [("document", .string o.label), ("valid", .bool false), ("errors", report.toJson)]

end DocumentOutcome

end JsonShape
