import JsonShape.Schema.Basic

/-!
# JSON Schema of a schema

`Schema.jsonSchema` is the JSON Schema (draft 2020-12) of the documents that a schema lets through, and
`Schema.jsonSchemaDocument` is the same with the header of a document of its own.  A field is required
unless it may be missing; outside of records a missing value has no JSON Schema, and the layers that let
it through stand for what they enclose.
-/

namespace JsonShape

/-- The dialect that the keywords are of. -/
def schemaDialect : String := "https://json-schema.org/draft/2020-12/schema"

namespace Schema

/-- The names of the fields that may not be missing. -/
def requiredNames : List (String × Schema) → List String
  | [] => []
  | (name, rule) :: rest =>
    if rule.admitsMissing then requiredNames rest else name :: requiredNames rest

/-- The keyword that lists required names, which is left out if there are none. -/
def requiredKeyword (names : List String) : List (String × Json) :=
  if names.isEmpty then [] else [("required", .array (names.map .string))]

mutual

/-- The keywords of a schema. -/
def keywordsOf : Schema → List (String × Json)
  | string => [("type", .string "string")]
  | number => [("type", .string "number")]
  | boolean => [("type", .string "boolean")]
  | construct fields =>
    [("type", .string "object"), ("properties", .object (properties fields)),
      ("additionalProperties", .bool true)] ++ requiredKeyword (requiredNames fields)
  | nullable inner =>
    [("oneOf", .array [.object (keywordsOf inner), .object [("type", .string "null")]])]
  | optional inner => keywordsOf inner
  | array item => [("type", .string "array"), ("items", .object (keywordsOf item))]

/-- The properties of a record. -/
def properties : List (String × Schema) → List (String × Json)
  | [] => []
  | (name, rule) :: rest => (name, .object (keywordsOf rule)) :: properties rest

end

/-- The JSON Schema of what may be supplied. -/
def jsonSchema (schema : Schema) : Json := .object schema.keywordsOf

/-- The JSON Schema as a document that names its dialect and, if it has one, its title. -/
def jsonSchemaDocument (schema : Schema) (title : Option String) : Json :=
  .object (("$schema", .string schemaDialect) ::
    (title.toList.map fun title => ("title", .string title)) ++ schema.keywordsOf)

end Schema

end JsonShape
