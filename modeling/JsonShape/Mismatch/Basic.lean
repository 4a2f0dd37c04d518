import JsonShape.Json.Basic
import JsonShape.Json.Printer

/-!
# Mismatches

A mismatch says at which place a document is at odds with a schema: what went wrong, the kind that was
expected and the kind that was received.  A `Report` lists every mismatch of a document in the order in
which they were found.

* `Step.render` is the text of a path, such as `tags[2]` or `address.city`; the whole document is `$`.
* `Mismatch.text` and `Report.text` tell a reader of the report about them.
* `Mismatch.toJson` and `Report.toJson` are their documents.
-/

namespace JsonShape

/-- What went wrong at a place. -/
inductive Complaint where
  /-- The value is not of the primitive kind that is wanted. -/
  | invalidType
  /-- The place could be missing, but what is there is not acceptable. -/
  | unexpectedAbsence
  /-- The place could be `null`, but what is there is not acceptable. -/
  | unexpectedNull
  /-- The value is not an object. -/
  | notAStructure
  /-- The value is not an array. -/
  | notASequence
  /-- The schema goes deeper than the cap allows. -/
  | depthExceeded
deriving DecidableEq

namespace Complaint

/-- Every complaint, in the order in which they are listed to the reader of a report. -/
def all : List Complaint :=
  [invalidType, unexpectedAbsence, unexpectedNull, notAStructure, notASequence, depthExceeded]

def name : Complaint → String
  | invalidType => "invalid_type"
  | unexpectedAbsence => "unexpected_absence"
  | unexpectedNull => "unexpected_null"
  | notAStructure => "not_a_structure"
  | notASequence => "not_a_sequence"
  | depthExceeded => "depth_exceeded"

/-- The complaint with that name. -/
def ofName? (s : String) : Option Complaint := all.find? fun complaint => complaint.name == s

theorem ofName?_name (complaint : Complaint) : ofName? complaint.name = some complaint := by
  cases complaint <;> decide

end Complaint

/-- A step into a document: to a field of an object or to an element of an array. -/
inductive Step where
  | field (name : String)
  | index (i : Nat)
deriving DecidableEq

/-- The steps from the whole document to a place in it. -/
abbrev Path : Type := List Step

namespace Step

/-- The text of one step. -/
def text : Step → String
  | field name => name
  | index i => "[" ++ toString i ++ "]"

/-- Appends the steps of a path to the text so far.  A field follows a point unless there is no text
before it. -/
def renderAfter (shown : String) : Path → String
  | [] => shown
  | field name :: rest => renderAfter (if shown = "" then name else shown ++ "." ++ name) rest
  | index i :: rest => renderAfter (shown ++ "[" ++ toString i ++ "]") rest

/-- The text of a path. -/
def render : Path → String
  | [] => "$"
  | path => renderAfter "" path

def toJson : Step → Json
  | field name => .string name
  | index i => .number (.integer i)

end Step

structure Mismatch where
  complaint : Complaint
  expected : Kind
  received : Kind
  path : Path
deriving DecidableEq

namespace Mismatch

/-- The text of the path. -/
def place (m : Mismatch) : String := Step.render m.path

def text (m : Mismatch) : String :=
  m.place ++ ": " ++ m.complaint.name ++ " (expected " ++ m.expected.name ++ ", received " ++
    m.received.name ++ ")"

def toJson (m : Mismatch) : Json :=
  .object
    [("code", .string m.complaint.name), ("expected", .string m.expected.name),
     ("received", .string m.received.name), ("path", .array (m.path.map Step.toJson))]

end Mismatch

/-- The mismatches of one document, in the order in which they were found. -/
abbrev Report : Type := List Mismatch

namespace Report

/-- A heading with the number of mismatches, and each of them on a line. -/
def text (report : Report) : String :=
  "validation failed with " ++ toString report.length ++ " error(s):" ++
    String.join (report.map fun m => "\n  " ++ m.text)

def toJson (report : Report) : Json := .array (report.map Mismatch.toJson)

/-- The first mismatch at the place with that text. -/
def find? (report : Report) (place : String) : Option Mismatch :=
  List.find? (fun m => m.place == place) report

end Report

end JsonShape
