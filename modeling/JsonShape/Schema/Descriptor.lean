import JsonShape.Json.Reader
import JsonShape.Schema.Basic

/-!
# Descriptors

A descriptor is a JSON document that describes a schema.  Every rule is an object whose member `type`
names its form; a record lists its fields in the member `fields`, and a rule around another one has
that in the member `of`.  Further members are ignored.  A rule may also be an array of its tag and the
value of that one member, with nothing after it.

* `Schema.ofDescriptor` reads the text of a descriptor.  The text is read as a document first, where only
  the outermost tag is looked at; the rules are then read from the document.  A fault of the text has a
  place and a position, a fault of a rule has neither.
* `Schema.toDescriptor` is the descriptor of a schema, and `Schema.descriptorText` its text.
-/

namespace JsonShape

/-- Why a text is no descriptor: the fault, the place in the document where it came up, and the
position in the text. -/
structure BadDescriptor where
  fault : Fault
  position : Option Position
  place : List PlaceStep
deriving DecidableEq

namespace BadDescriptor

/-- The text of the place. -/
def placeText (e : BadDescriptor) : String := PlaceStep.render e.place

/-- The fault and, if it has one, its position. -/
def reason (e : BadDescriptor) : String :=
  match e.position with
  | some position => e.fault.message ++ position.text
  | none => e.fault.message

def message (e : BadDescriptor) : String :=
  "invalid descriptor at " ++ e.placeText ++ ": " ++ e.reason

end BadDescriptor

namespace Descriptor

/-- What is wanted where a rule is to stand. -/
def wanted : String := "internally tagged enum Descriptor"

/-- What is wanted where a tag is to stand. -/
def tagWanted : String := "variant identifier"

/-- The form that a word names. -/
def formOf (word : String) : Except Fault Form :=
  match Form.ofTag? word with
  | some form => .ok form
  | none => .error (.unknownVariant word (Form.all.map Form.tag))

/-- Reads the outermost tag, which must be a string. -/
def outerTag : Reader Json := fun text =>
  match skipBlanks text with
  | '"' :: rest => do
    let (word, rest) ← stringAfterQuote rest
    match formOf word with
    | .ok _ => return (.string word, rest)
    | .error fault => faultBefore fault rest
  | text => .error (mistyped tagWanted text)

/-- The value of a member of the outermost rule; a second tag is refused. -/
def outerMember (names : List String) (name : String) : Reader Json := fun text =>
  if name = "type" then
    if name ∈ names then faultBefore (.duplicateField name) (afterObject text)
    else memberValue outerTag name text
  else memberValue (value (nestingLimit - 1)) name text

/-- The outermost rule as an object whose opening brace has been taken. -/
def outerObject : Reader Json := fun text => do
  let (entries, rest) ← members outerMember text
  if "type" ∈ Members.names entries then return (.object entries, rest)
  else faultBefore (.missingField "type") rest

/-- The outermost rule as an array whose opening bracket has been taken. -/
def outerArray : Reader Json := fun text => do
  match ← nextItem true text with
  | .finish rest => faultBefore (.missingField "type") (afterList rest)
  | .entry rest =>
    let (tag, rest) ← atPlace (.index 0) (outerTag rest)
    let (others, rest) ← itemsFrom (value (nestingLimit - 1)) (rest.length + 1) 1 rest
    return (.array (tag :: others), rest)

/-- A document whose outermost rule has a tag. -/
def outer : Reader Json := fun text =>
  match skipBlanks text with
  | '[' :: rest => outerArray rest
  | '\x7b' :: rest => outerObject rest
  | text => .error (mistyped wanted text)

/-- The form that a tag names, by its word or by its number. -/
def formOfTag : Json → Except Fault Form
  | .string word => formOf word
  | .number (.integer n) =>
    if n < 0 then .error (.invalidType (.number (.integer n)) tagWanted)
    else
      match Form.all[n.toNat]? with
      | some form => .ok form
      | none => .error (.invalidValue n "variant index 0 <= i < 7")
  | tag => .error (.invalidType tag.found tagWanted)

/-- The form that the only tag among some members names. -/
def formAmong : List (String × Json) → Except Fault Form
  | [] => .error (.missingField "type")
  | (name, document) :: rest =>
    if name = "type" then do
      let form ← formOfTag document
      if "type" ∈ Members.names rest then .error (.duplicateField "type") else .ok form
    else formAmong rest

/-- Refuses a second member of a name that has been read. -/
def onlyOnce {α : Type} (name : String) (rest : List (String × Json)) (result : α) :
    Except Fault α :=
  if name ∈ Members.names rest then .error (.duplicateField name) else .ok result

/-- Refuses further elements after the tag of a base rule. -/
def onlyTag (rest : List Json) (base : Schema) : Except Fault Schema :=
  if rest.isEmpty then .ok base
  else .error (.invalidLength rest.length "0 elements in sequence")

/-- Refuses further elements after the one that follows a tag. -/
def onlyOne {α : Type} (rest : List Json) (result : α) : Except Fault α :=
  if rest.isEmpty then .ok result
  else .error (.invalidLength (rest.length + 1) "1 element in sequence")

mutual

/-- The rule that a document describes. -/
def rule : Json → Except Fault Schema
  | .object entries => do
    match ← formAmong entries with
    | .string => return .string
    | .number => return .number
    | .boolean => return .boolean
    | .construct => return .construct (← fieldsAmong entries)
    | .optional => return .optional (← innerAmong entries)
    | .nullable => return .nullable (← innerAmong entries)
    | .array => return .array (← innerAmong entries)
  | .array [] => .error (.missingField "type")
  | .array (tag :: rest) => do
    match ← formOfTag tag with
    | .string => onlyTag rest .string
    | .number => onlyTag rest .number
    | .boolean => onlyTag rest .boolean
    | .construct => return .construct (← fieldsIn rest)
    | .optional => return .optional (← innerIn .optional rest)
    | .nullable => return .nullable (← innerIn .nullable rest)
    | .array => return .array (← innerIn .array rest)
  | document => .error (.invalidType document.found wanted)

/-- The inner rule among the members of a rule. -/
def innerAmong : List (String × Json) → Except Fault Schema
  | [] => .error (.missingField "of")
  | (name, document) :: rest =>
    if name = "of" then do onlyOnce name rest (← rule document) else innerAmong rest

/-- The inner rule of a rule that is an array. -/
def innerIn (form : Form) : List Json → Except Fault Schema
  | [] =>
    .error (.invalidLength 0
      ("struct variant Descriptor::" ++ form.title ++ " with 1 element"))
  | document :: rest => do onlyOne rest (← rule document)

/-- The fields among the members of a record; there are none if they are left out. -/
def fieldsAmong : List (String × Json) → Except Fault (List (String × Schema))
  | [] => .ok []
  | (name, document) :: rest =>
    if name = "fields" then do onlyOnce name rest (← fieldsOf document) else fieldsAmong rest

/-- The fields of a record that is an array. -/
def fieldsIn : List Json → Except Fault (List (String × Schema))
  | [] => .ok []
  | document :: rest => do onlyOne rest (← fieldsOf document)

/-- The fields that a document lists. -/
def fieldsOf : Json → Except Fault (List (String × Schema))
  | .object entries => fieldRules [] entries
  | document => .error (.invalidType document.found "a map of field name to descriptor")

/-- The fields after those whose names are given; none is named twice. -/
def fieldRules (names : List String) :
    List (String × Json) → Except Fault (List (String × Schema))
  | [] => .ok []
  | (name, document) :: rest =>
    if name ∈ names then .error (.duplicateName name)
    else do
      let field ← rule document
      let others ← fieldRules (name :: names) rest
      return (name, field) :: others

end

mutual

/-- The document that describes a rule. -/
def ofRule : Schema → Json
  | .construct fields =>
    .object [("type", .string "construct"), ("fields", .object (ofFields fields))]
  | .optional inner => .object [("type", .string "optional"), ("of", ofRule inner)]
  | .nullable inner => .object [("type", .string "nullable"), ("of", ofRule inner)]
  | .array item => .object [("type", .string "array"), ("of", ofRule item)]
  | .string => .object [("type", .string "string")]
  | .number => .object [("type", .string "number")]
  | .boolean => .object [("type", .string "boolean")]

def ofFields : List (String × Schema) → List (String × Json)
  | [] => []
  | (name, field) :: rest => (name, ofRule field) :: ofFields rest

end

end Descriptor

namespace Schema

/-- The schema that the descriptor at the front of a text describes. -/
def ofDescriptor (text : String) : Except BadDescriptor Schema :=
  match Descriptor.outer text.toList with
  | .error failure => .error ⟨failure.fault, some (failure.position text.toList), failure.place⟩
  | .ok (document, _) =>
    match Descriptor.rule document with
    | .ok schema => .ok schema
    | .error fault => .error ⟨fault, none, []⟩

/-- The descriptor of a schema. -/
def toDescriptor (schema : Schema) : Json := Descriptor.ofRule schema

/-- The text of the descriptor, with one member a line. -/
def descriptorText (schema : Schema) : String := schema.toDescriptor.pretty

end Schema

end JsonShape
