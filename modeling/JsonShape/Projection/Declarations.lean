import JsonShape.Projection.Naming
import JsonShape.Schema.Basic
import JsonShape.Text.Literal

/-!
# Rust declarations of a schema

The values that a schema lets through can be held by Rust types: every record becomes a `struct`, named
after its root and the keys on the way to it, and a root that is no record becomes a synonym.  A layer
that lets something be missing or `null` becomes an `Option`.

* `Declarations` is what has been declared so far, each item under a name of its own.
* `Declarations.declare` adds the items of one more root; a record stands before the records in it.
* `Declarations.text` is the source text.

Names are decided first and the text is written from the items afterwards.  A name that is taken gets
the smallest number from two on that makes it free.
-/

namespace JsonShape

/-- A type as it is written in a declaration. -/
inductive TypeExpr where
  | string
  | number
  | boolean
  | option (inner : TypeExpr)
  | list (item : TypeExpr)
  | named (name : String)
deriving DecidableEq

namespace TypeExpr

def text : TypeExpr → String
  | string => "String"
  | number => "f64"
  | boolean => "bool"
  | option inner => "Option<" ++ text inner ++ ">"
  | list item => "Vec<" ++ text item ++ ">"
  | named name => name

end TypeExpr

/-- A field of a declared record: its identifier, the key it is read from and written to, whether the
key may be missing and whether it may be `null`, and its type. -/
structure FieldDecl where
  ident : String
  key : String
  mayMiss : Bool
  mayBeNull : Bool
  type : TypeExpr
deriving DecidableEq

namespace FieldDecl

/-- Whether the key has to be given, since it is not the identifier. -/
def isRenamed (f : FieldDecl) : Bool := unmarked f.ident != f.key

/-- Whether the field has to tell a missing key from `null`. -/
def needsPresent (f : FieldDecl) : Bool := f.mayMiss && f.mayBeNull

/-- How a missing key and `null` are read and written. -/
def attributes (f : FieldDecl) : List String :=
  match f.mayMiss, f.mayBeNull with
  | true, true =>
    ["default", "deserialize_with = \"deserialize_present\"",
     "skip_serializing_if = \"Option::is_none\""]
  | true, false => ["default", "skip_serializing_if = \"Option::is_none\""]
  | false, true => ["deserialize_with = \"Option::deserialize\""]
  | false, false => []

/-- A line with attributes. -/
def attributeLine (attributes : String) : String := "    #[serde(" ++ attributes ++ ")]\n"

def text (f : FieldDecl) : String :=
  (if f.isRenamed then attributeLine ("rename = " ++ literal f.key) else "") ++
    (if f.attributes.isEmpty then "" else attributeLine (String.intercalate ", " f.attributes)) ++
    "    pub " ++ f.ident ++ ": " ++ f.type.text ++ ",\n"

end FieldDecl

/-- A declared type. -/
inductive Item where
  | struct (name : String) (fields : List FieldDecl)
  | synonym (name : String) (type : TypeExpr)
deriving DecidableEq

namespace Item

def name : Item → String
  | struct name _ => name
  | synonym name _ => name

/-- The fields of a record; a synonym has none. -/
def fields : Item → List FieldDecl
  | struct _ fields => fields
  | synonym _ _ => []

/-- The traits that every record derives. -/
def derivedTraits : String := "#[derive(Debug, Clone, PartialEq, Serialize, Deserialize)]\n"

def text : Item → String
  | struct name fields =>
    derivedTraits ++ "pub struct " ++ name ++ " \x7b\n" ++ String.join (fields.map FieldDecl.text) ++
      "\x7d\n"
  | synonym name type => "pub type " ++ name ++ " = " ++ type.text ++ ";\n"

end Item

/-- The wanted name if it is free, and otherwise the stem with the smallest number from two on that
makes it free.  One more number than there are names taken is enough to try. -/
def firstFree (wanted stem : String) (taken : List String) : String :=
  if wanted ∈ taken then
    let numbered := (List.range (taken.length + 1)).map fun n => stem ++ toString (n + 2)
    (numbered.find? fun name => name ∉ taken).getD wanted
  else wanted

/-- A free name for a type. -/
def freeType (wanted : String) (taken : List String) : String := firstFree wanted wanted taken

/-- A free identifier for a field; a numbered one is never raw. -/
def freeField (wanted : String) (taken : List String) : String :=
  firstFree wanted (unmarked wanted ++ "_") taken

mutual

/-- The type of a schema for which a name is given in case it is a record, the items of the records in
it, and the names that are then taken. -/
def typeOf (wanted : String) (taken : List String) : Schema → TypeExpr × List Item × List String
  | .string => (.string, [], taken)
  | .number => (.number, [], taken)
  | .boolean => (.boolean, [], taken)
  | .optional inner =>
    let (type, items, taken) := typeOf wanted taken inner
    (.option type, items, taken)
  | .nullable inner =>
    let (type, items, taken) := typeOf wanted taken inner
    (.option type, items, taken)
  | .array item =>
    let (type, items, taken) := typeOf (wanted ++ "Item") taken item
    (.list type, items, taken)
  | .construct fields =>
    let name := freeType wanted taken
    let (fields, items, taken) := fieldDecls name [] (name :: taken) fields
    (.named name, .struct name fields :: items, taken)

/-- The declarations of the fields of a record after those with the given identifiers, the items of the
records in them, and the names that are then taken. -/
def fieldDecls (owner : String) (idents taken : List String) :
    List (String × Schema) → List FieldDecl × List Item × List String
  | [] => ([], [], taken)
  | (key, rule) :: rest =>
    let ident := freeField (fieldIdent key) idents
    let (type, items, taken) := typeOf (owner ++ typeIdent key) taken rule
    let (others, more, taken) := fieldDecls owner (ident :: idents) taken rest
    (⟨ident, key, rule.admitsMissing, rule.admitsNull, type⟩ :: others, items ++ more, taken)

end

/-- The types declared so far, and their names. -/
structure Declarations where
  items : List Item
  taken : List String

namespace Declarations

def empty : Declarations := ⟨[], []⟩

/-- Whether the schema is a record. -/
def isRecord (schema : Schema) : Bool := schema.form == .construct

/-- Adds the items of a schema under the name of its root. -/
def declare (d : Declarations) (schema : Schema) (root : String) : Declarations :=
  let wanted := typeIdent root
  if isRecord schema then
    let (_, items, taken) := typeOf wanted d.taken schema
    ⟨d.items ++ items, taken⟩
  else
    let name := freeType wanted d.taken
    let (type, items, taken) := typeOf name (name :: d.taken) schema
    ⟨d.items ++ .synonym name type :: items, taken⟩

/-- Whether some field has to tell a missing key from `null`. -/
def needsPresent (d : Declarations) : Bool :=
  d.items.any fun item => item.fields.any FieldDecl.needsPresent

/-- What every file of declarations begins with. -/
def heading : String := "use serde::\x7bDeserialize, Serialize\x7d;\n"

/-- The function that reads a key which is there. -/
def presentReader : String :=
  "\n/// Reads a present key, `null` included, as `Some`; a missing key stays `None`.\n" ++
  "fn deserialize_present<'de, D, T>(de: D) -> Result<Option<T>, D::Error>\n" ++
  "where\n" ++
  "    D: serde::Deserializer<'de>,\n" ++
  "    T: Deserialize<'de>,\n" ++
  "\x7b\n" ++
  "    T::deserialize(de).map(Some)\n" ++
  "\x7d\n"

/-- The source text of the declarations. -/
def text (d : Declarations) : String :=
  heading ++ (if d.needsPresent then presentReader else "") ++
    String.join (d.items.map fun item => "\n" ++ item.text)

end Declarations

end JsonShape
