import JsonShape.Json.Basic

/-!
# Schemas

A schema is a rule for what may be supplied at a place.  A base rule wants a value of one kind; a record
also has a rule for each of its fields and an array one for all of its elements.  A layer of `optional`
lets the place be missing, a layer of `nullable` lets it be `null`, and both leave everything else to the
rule inside.

* `Schema.expected` is the kind that the base rule under all layers wants.
* `Schema.admitsMissing` and `Schema.admitsNull` say what the layers let through.
* `Schema.depth` counts the rules inside one another.
* `Schema.Distinct` says that no record names a field twice, as all readers and builders see to.
* `Schema.same` compares two schemas and takes no account of the order of fields.
-/

namespace JsonShape

inductive Schema where
  | string
  | number
  | boolean
  | construct (fields : List (String × Schema))
  | optional (inner : Schema)
  | nullable (inner : Schema)
  | array (item : Schema)

/-- The outermost rule of a schema by itself. -/
inductive Form where
  | string
  | number
  | boolean
  | construct
  | optional
  | nullable
  | array
deriving DecidableEq

namespace Form

/-- Every form, in the order that numbers them. -/
def all : List Form := [string, number, boolean, construct, optional, nullable, array]

/-- The word for the form in a descriptor. -/
def tag : Form → String
  | string => "string"
  | number => "number"
  | boolean => "boolean"
  | construct => "construct"
  | optional => "optional"
  | nullable => "nullable"
  | array => "array"

/-- The form as a name. -/
def title : Form → String
  | string => "String"
  | number => "Number"
  | boolean => "Boolean"
  | construct => "Construct"
  | optional => "Optional"
  | nullable => "Nullable"
  | array => "Array"

/-- The form with that word. -/
def ofTag? (word : String) : Option Form := all.find? fun form => form.tag == word

theorem ofTag?_tag (form : Form) : ofTag? form.tag = some form := by
  cases form <;> decide

end Form

namespace Schema

def form : Schema → Form
  | string => .string
  | number => .number
  | boolean => .boolean
  | construct _ => .construct
  | optional _ => .optional
  | nullable _ => .nullable
  | array _ => .array

/-- The kind that a present value other than `null` must have. -/
def expected : Schema → Kind
  | string => .string
  | number => .number
  | boolean => .boolean
  | construct _ => .object
  | array _ => .array
  | optional inner => expected inner
  | nullable inner => expected inner

/-- The rule directly inside. -/
def child? : Schema → Option Schema
  | optional inner => some inner
  | nullable inner => some inner
  | array item => some item
  | _ => none

/-- The fields of a record. -/
def fields? : Schema → Option (List (String × Schema))
  | construct fields => some fields
  | _ => none

def isPrimitive : Schema → Bool
  | string => true
  | number => true
  | boolean => true
  | _ => false

/-- Whether there is a rule directly inside. -/
def isWrapper (s : Schema) : Bool := s.child?.isSome

/-- Whether the place may be missing.  A missing value passes through the layers that let only `null`
through themselves. -/
def admitsMissing : Schema → Bool
  | optional _ => true
  | nullable inner => admitsMissing inner
  | _ => false

/-- Whether the place may be `null`. -/
def admitsNull : Schema → Bool
  | nullable _ => true
  | optional inner => admitsNull inner
  | _ => false

mutual

/-- The number of rules inside one another. -/
def depth : Schema → Nat
  | construct fields => 1 + depthOfFields fields
  | optional inner => 1 + depth inner
  | nullable inner => 1 + depth inner
  | array item => 1 + depth item
  | _ => 1

/-- The depth of the deepest field. -/
def depthOfFields : List (String × Schema) → Nat
  | [] => 0
  | (_, rule) :: rest => max (depth rule) (depthOfFields rest)

end

mutual

/-- No record in the schema names a field twice. -/
def Distinct : Schema → Prop
  | construct fields => (Members.names fields).Nodup ∧ DistinctFields fields
  | optional inner => Distinct inner
  | nullable inner => Distinct inner
  | array item => Distinct item
  | _ => True

def DistinctFields : List (String × Schema) → Prop
  | [] => True
  | (_, rule) :: rest => Distinct rule ∧ DistinctFields rest

end

mutual

/-- Whether two schemas have the same rules, whatever the order of fields. -/
def same : Schema → Schema → Bool
  | string, string => true
  | number, number => true
  | boolean, boolean => true
  | construct fields, construct others =>
    fields.length == others.length && sameFields fields others
  | optional inner, optional other => same inner other
  | nullable inner, nullable other => same inner other
  | array item, array other => same item other
  | _, _ => false

/-- Whether each field is also among the others, with the same rule. -/
def sameFields : List (String × Schema) → List (String × Schema) → Bool
  | [], _ => true
  | (name, rule) :: rest, others =>
    (match Members.get? name others with
      | some other => same rule other
      | none => false) && sameFields rest others

end

/-- A record of the given fields; a repeated name keeps its first place and takes its last rule. -/
def record (fields : List (String × Schema)) : Schema := construct (Members.merge fields)

end Schema

end JsonShape
