import JsonShape.Json.Skim
import JsonShape.Mismatch.Basic

/-!
# Reading reports

A report is read from the array of its mismatches.  A mismatch is an object of its four parts, among
which the path may be left out and others are passed over, or an array of the parts in order.  A step
of a path is a string for a field and a whole number for an index.

`Report.ofText` reads the text of a report and `Path.ofText` that of a path.
-/

namespace JsonShape

/-- Reads one of the words that name something, after its opening quotation mark. -/
def named {α : Type} (ofName? : String → Option α) (known : List String) : Reader α := fun text => do
  let (word, rest) ← stringAfterQuote text
  match ofName? word with
  | some result => return (result, rest)
  | none => faultBefore (.unknownVariant word known) rest

/-- The text after the quotation mark that opens the name of the first member of an object. -/
def firstName (text : List Char) : Except Failure (List Char) :=
  match skipBlanks text with
  | [] => faultAt .objectEnds []
  | c :: rest =>
    if c = '"' then .ok rest
    else if c = '\x7d' then faultAt .noValue (c :: rest)
    else faultAt .noKey (c :: rest)

/-- The text after `null`. -/
def nullWord (text : List Char) : Except Failure (List Char) :=
  match skipBlanks text with
  | 'n' :: rest => wordRest ['u', 'l', 'l'] rest
  | text => .error (mistyped "unit" text)

/-- The text after the brace that ends an object of one member. -/
def onlyMemberEnd (text : List Char) : Except Failure (List Char) :=
  match skipBlanks text with
  | [] => faultBefore .objectEnds []
  | c :: rest => if c = '\x7d' then .ok rest else faultBefore .noValue (c :: rest)

/-- Reads a word, or an object whose only member has the word for its name and `null` for its value. -/
def namedOrTagged {α : Type} (ofName? : String → Option α) (known : List String) : Reader α :=
  fun text =>
    match skipBlanks text with
    | [] => faultAt .valueEnds []
    | c :: rest =>
      if c = '"' then named ofName? known rest
      else if c = '\x7b' then do
        let (result, rest) ← named ofName? known (← firstName rest)
        let rest ← nullWord (← colon rest)
        return (result, ← onlyMemberEnd rest)
      else faultAt .noValue (c :: rest)

def complaintWord : Reader Complaint :=
  namedOrTagged Complaint.ofName? (Complaint.all.map Complaint.name)

def kindWord : Reader Kind := namedOrTagged Kind.ofName? (Kind.all.map Kind.name)

/-- The step that a document stands for. -/
def Step.ofJson? : Json → Option Step
  | .string name => some (.field name)
  | .number (.integer n) => if 0 ≤ n then some (.index n.toNat) else none
  | _ => none

/-- Reads a step of a path that stands at a place with so many levels left below it. -/
def step (levels : Nat) : Reader Step := fun text => do
  let (document, rest) ← value levels text
  match Step.ofJson? document with
  | some step => return (step, rest)
  | none => faultBefore (.noVariant "PathSegment") (afterList rest)

/-- Reads an array of whatever `read` reads. -/
def listOf {α : Type} (read : Reader α) : Reader (List α) := fun text =>
  match skipBlanks text with
  | '[' :: rest => items read rest
  | text => .error (mistyped "a sequence" text)

/-- Reads a path that has so many levels in it. -/
def pathWithin (levels : Nat) : Reader Path := listOf (step levels)

/-- The levels of a document that may stand below a step of a path in a report. -/
def levelsBelowPath : Nat := nestingLimit - 3

/-- A member of a mismatch. -/
inductive Part where
  | complaint (c : Complaint)
  | expected (k : Kind)
  | received (k : Kind)
  | path (p : Path)
  | other

namespace Part

def complaint? : Part → Option Complaint
  | complaint c => some c
  | _ => none

def expected? : Part → Option Kind
  | expected k => some k
  | _ => none

def received? : Part → Option Kind
  | received k => some k
  | _ => none

def path? : Part → Option Path
  | path p => some p
  | _ => none

/-- The names of the parts. -/
def names : List String := ["code", "expected", "received", "path"]

/-- Reads the member of a name, in an object whose members before it have the given names. -/
def read (before : List String) (name : String) : Reader Part := fun text =>
  if name ∈ names ∧ name ∈ before then faultBefore (.duplicateField name) (afterObject text)
  else do
    let text ← colon text
    match name with
    | "code" => (complaintWord text).map fun (c, rest) => (.complaint c, rest)
    | "expected" => (kindWord text).map fun (k, rest) => (.expected k, rest)
    | "received" => (kindWord text).map fun (k, rest) => (.received k, rest)
    | "path" => (pathWithin levelsBelowPath text).map fun (p, rest) => (.path p, rest)
    | _ => (Skim.value text).map fun rest => (.other, rest)

end Part

namespace Mismatch

/-- The mismatch of some parts; all but the path are needed. -/
def ofParts (parts : List Part) : Except Fault Mismatch :=
  match parts.findSome? Part.complaint?, parts.findSome? Part.expected?,
      parts.findSome? Part.received? with
  | some complaint, some expected, some received =>
    .ok ⟨complaint, expected, received, (parts.findSome? Part.path?).getD []⟩
  | none, _, _ => .error (.missingField "code")
  | _, none, _ => .error (.missingField "expected")
  | _, _, none => .error (.missingField "received")

/-- Reads a mismatch whose opening brace has been taken. -/
def inObject : Reader Mismatch := fun text => do
  let (parts, rest) ← members Part.read text
  match ofParts (parts.map Prod.snd) with
  | .ok mismatch => return (mismatch, rest)
  | .error fault => faultBefore fault rest

/-- Reads the element of a mismatch at an index below three, which must be there. -/
def element {α : Type} (index : Nat) (read : Reader α) : Reader α := fun text => do
  match ← nextItem (index == 0) text with
  | .entry rest => read rest
  | .finish rest =>
    faultBefore (.invalidLength index "struct ValidationError with 4 elements") (afterList rest)

end Mismatch

/-- The text after the bracket that ends an array which can have no more elements. -/
def listEnd (text : List Char) : Except Failure (List Char) :=
  match skipBlanks text with
  | [] => faultAt .listEnds []
  | c :: rest =>
    if c = ']' then .ok rest
    else if c = ',' then
      match skipBlanks rest with
      | [] => faultAt .trailing []
      | d :: rest => faultAt (if d = ']' then .trailingComma else .trailing) (d :: rest)
    else faultAt .trailing (c :: rest)

namespace Mismatch

/-- Reads a mismatch whose opening bracket has been taken. -/
def inArray : Reader Mismatch := fun text => do
  let (complaint, rest) ← element 0 complaintWord text
  let (expected, rest) ← element 1 kindWord rest
  let (received, rest) ← element 2 kindWord rest
  match ← nextItem false rest with
  | .finish rest => return (⟨complaint, expected, received, []⟩, ← listEnd rest)
  | .entry rest =>
    let (path, rest) ← pathWithin levelsBelowPath rest
    return (⟨complaint, expected, received, path⟩, ← listEnd rest)

def read : Reader Mismatch := fun text =>
  match skipBlanks text with
  | '[' :: rest => inArray rest
  | '\x7b' :: rest => inObject rest
  | text => .error (mistyped "struct ValidationError" text)

end Mismatch

/-- Reads the text of a report. -/
def Report.ofText (text : String) : Except Misread Report :=
  readWhole (listOf Mismatch.read) text

/-- Reads the text of a path. -/
def Path.ofText (text : String) : Except Misread Path :=
  readWhole (pathWithin (nestingLimit - 1)) text

end JsonShape
