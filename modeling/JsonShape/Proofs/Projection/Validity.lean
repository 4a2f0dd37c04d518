import JsonShape.Json.Basic

/-!
# Validity under a JSON Schema

`Json.validates schema document` is the validity of draft 2020-12 for schemas that are written with the
keywords `type`, `properties`, `required`, `additionalProperties`, `items` and `oneOf`.  A keyword that is
about objects or about arrays holds of every other document, and a keyword of any other name says nothing
about the document, as the annotations `$schema` and `title` do.  The type `integer`, which no kind of value
is named after, is left out.
-/

namespace JsonShape

theorem Kind.name_injective {kind other : Kind} (h : kind.name = other.name) : kind = other := by
  have := ofName?_name kind
  rw [h, ofName?_name] at this
  exact (Option.some.inj this).symm

namespace Json

/-- Whether the document is of the type, or of one of the types, that the value of `type` names. -/
def hasType (document : Json) : Json → Bool
  | .string name => document.kind.name == name
  | .array names => names.any fun
    | .string name => document.kind.name == name
    | _ => false
  | _ => false

/-- Whether a document, if it is an object, has every name that the value of `required` lists. -/
def hasRequired (document : Json) : Json → Bool
  | .array names =>
    match document with
    | .object members => names.all fun
      | .string name => (Members.get? name members).isSome
      | _ => false
    | _ => true
  | _ => false

/-- The names under `properties`, which are exempt from `additionalProperties`. -/
def declaredNames (keywords : List (String × Json)) : List String :=
  match Members.get? "properties" keywords with
  | some properties => Members.names properties.members
  | none => []

/-- The elements of an array; other documents have none. -/
def items : Json → List Json
  | array items => items
  | _ => []

mutual

/-- Whether the document is valid under the schema, which is a truth value or an object of keywords. -/
def validates : Json → Json → Bool
  | .bool verdict, _ => verdict
  | .object keywords, document => keywordsHold (declaredNames keywords) keywords document
  | _, _ => false

/-- Whether every keyword of a schema that declares the given names holds of the document. -/
def keywordsHold (declared : List String) : List (String × Json) → Json → Bool
  | [], _ => true
  | (keyword, value) :: rest, document =>
    (if keyword = "type" then document.hasType value
    else if keyword = "required" then document.hasRequired value
    else if keyword = "properties" then holdsProperties value document
    else if keyword = "additionalProperties" then
      document.members.all fun member => declared.contains member.1 || validates value member.2
    else if keyword = "items" then document.items.all fun item => validates value item
    else if keyword = "oneOf" then holdsOneOf value document
    else true) && keywordsHold declared rest document

def holdsProperties : Json → Json → Bool
  | .object properties, document => propertiesHold properties document.members
  | _, _ => false

/-- Whether each property that is among the members has a value that is valid under its schema. -/
def propertiesHold : List (String × Json) → List (String × Json) → Bool
  | [], _ => true
  | (name, schema) :: rest, members =>
    ((Members.get? name members).all fun value => validates schema value) && propertiesHold rest members

/-- Whether the document is valid under exactly one of the schemas. -/
def holdsOneOf : Json → Json → Bool
  | .array schemas, document => validCount schemas document == 1
  | _, _ => false

def validCount : List Json → Json → Nat
  | [], _ => 0
  | schema :: rest, document => (validates schema document).toNat + validCount rest document

end

theorem keywordsHold_append (declared : List String) (keywords others : List (String × Json))
    (document : Json) :
    keywordsHold declared (keywords ++ others) document =
      (keywordsHold declared keywords document && keywordsHold declared others document) := by
  induction keywords with
  | nil => simp [keywordsHold]
  | cons keyword rest ih => rw [List.cons_append, keywordsHold, keywordsHold, ih, Bool.and_assoc]

theorem keywordsHold_type (declared : List String) (kind : Kind) (document : Json) :
    keywordsHold declared [("type", .string kind.name)] document = true ↔ document.kind = kind := by
  simp only [keywordsHold, hasType, if_pos, Bool.and_true, beq_iff_eq]
  exact ⟨Kind.name_injective, congrArg Kind.name⟩

/-- Properties beside which all others are valid. -/
theorem keywordsHold_properties (declared : List String) (properties : List (String × Json))
    (document : Json) :
    keywordsHold declared [("properties", .object properties), ("additionalProperties", .bool true)]
      document = propertiesHold properties document.members := by
  simp [keywordsHold, holdsProperties, validates]

theorem keywordsHold_items (declared : List String) (schema document : Json) :
    keywordsHold declared [("items", schema)] document = true ↔
      ∀ item ∈ document.items, validates schema item = true := by
  simp [keywordsHold]

/-- Of two branches exactly one holds if one holds and the other does not. -/
theorem keywordsHold_oneOf (declared : List String) (first second document : Json) :
    keywordsHold declared [("oneOf", .array [first, second])] document = true ↔
      validates first document ≠ validates second document := by
  cases hf : validates first document <;> cases hs : validates second document <;>
    simp [keywordsHold, holdsOneOf, validCount, hf, hs]

theorem validates_object (keywords : List (String × Json)) (document : Json) :
    validates (.object keywords) document =
      keywordsHold (declaredNames keywords) keywords document := by
  rw [validates]

end Json

end JsonShape
