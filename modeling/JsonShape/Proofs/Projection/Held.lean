import JsonShape.Projection.Declarations
import JsonShape.Json.Basic
import JsonShape.Proofs.Text.Literal

/-!
# Values of declared types

`Held` is what a value of a declared type holds.  `Declarations.readAt` reads a document at a type as the
derived traits do, attribute by attribute, and `Held.toJson` writes it back.

* `null` is read at an `Option` as nothing; any other document fills every `Option` around its type.
* A key that no field has is passed over, a key given twice is refused.  A missing key is what the type is
  by default if the field says so; otherwise only an `Option` without a reader of its own may be missing.
* `deserialize_present` reads the type inside the `Option` and fills it, `Option::deserialize` reads the
  `Option` itself, but not a missing key.
* A field that says so is left out while it holds nothing.

Numbers are held as doubles; `Json.inDoubles` is a document with the doubles that its numbers are read as.
The compiler takes every identifier in a normal form, `normal`: that is canonical composition, which leaves ASCII as
it is.  So a field without a key of its own goes by the normal form of its identifier (`FieldDecl.keyIn`).  An array
is not taken for a record, though the derived trait does so.
-/

namespace JsonShape

/-! ## Numbers -/

/-- The double that a number is read as, the nearest one to a whole number. -/
def Number.toDouble? : Number → Option Binary64
  | .integer n => (Magnitude.ofNat? n.natAbs).map (⟨n < 0, ·⟩)
  | .double x => some x

/-- A whole number in a document is one of 64 bits, with a sign or without. -/
def Number.FitsWord : Number → Prop
  | .integer n => -9223372036854775808 ≤ n ∧ n ≤ 18446744073709551615
  | .double _ => True

namespace Json

mutual

/-- The document with its numbers as doubles. -/
def inDoubles : Json → Json
  | null => null
  | bool b => bool b
  | number n =>
    match n.toDouble? with
    | some x => number (.double x)
    | none => number n
  | string s => string s
  | array items => array (inDoublesItems items)
  | object members => object (inDoublesMembers members)

def inDoublesItems : List Json → List Json
  | [] => []
  | item :: rest => inDoubles item :: inDoublesItems rest

def inDoublesMembers : List (String × Json) → List (String × Json)
  | [] => []
  | (name, value) :: rest => (name, inDoubles value) :: inDoublesMembers rest

end

end Json

/-! ## Fields and their attributes -/

/-- What a value of a declared type holds; an `Option` is empty or filled. -/
inductive Held where
  | string (s : String)
  | number (x : Binary64)
  | boolean (b : Bool)
  | empty
  | filled (inner : Held)
  | list (items : List Held)
  | record (fields : List (FieldDecl × Held))

/-- What a document is read as, by the type. -/
abbrev Reading : Type := TypeExpr → Option Held

/-- The value of a type by default; a declared record has none. -/
def TypeExpr.default? : TypeExpr → Option Held
  | string => some (.string "")
  | number => some (.number ⟨false, .zero⟩)
  | boolean => some (.boolean false)
  | option _ => some .empty
  | list _ => some (.list [])
  | named _ => none

namespace FieldDecl

/-- The key in a document: what the literal in the attribute stands for, or else the identifier without the
mark of a raw one. -/
def wire (f : FieldDecl) : String :=
  if f.isRenamed then (literalValue? (literal f.key)).getD "" else unmarked f.ident

/-- The key in a document, where the compiler takes identifiers in a normal form. -/
def keyIn (normal : String → String) (f : FieldDecl) : String := if f.isRenamed then f.wire else normal f.wire

def isDefaulted (f : FieldDecl) : Bool := f.attributes.contains "default"

def skipsEmpty (f : FieldDecl) : Bool :=
  f.attributes.contains "skip_serializing_if = \"Option::is_none\""

def readsPresent (f : FieldDecl) : Bool :=
  f.attributes.contains "deserialize_with = \"deserialize_present\""

def readsOption (f : FieldDecl) : Bool :=
  f.attributes.contains "deserialize_with = \"Option::deserialize\""

/-- A field whose key is missing. -/
def whenMissing (f : FieldDecl) : Option Held :=
  if f.isDefaulted then f.type.default?
  else if f.readsPresent || f.readsOption then none
  else
    match f.type with
    | .option _ => some .empty
    | _ => none

/-- A field whose key is there; `helper` says whether the file has the function `deserialize_present`. -/
def whenGiven (f : FieldDecl) (helper : Bool) (reading : Reading) : Option Held :=
  match f.type with
  | .option inner =>
    if f.readsPresent then if helper then (reading inner).map .filled else none
    else reading (.option inner)
  | type => if f.readsPresent || f.readsOption then none else reading type

/-- A field from the values that stand under its key. -/
def readFrom (f : FieldDecl) (helper : Bool) : List Reading → Option Held
  | [] => f.whenMissing
  | [reading] => f.whenGiven helper reading
  | _ => none

end FieldDecl

/-- The values of the members with a name. -/
def givenUnder (name : String) (readings : List (String × Reading)) : List Reading :=
  (readings.filter fun member => member.1 == name).map Prod.snd

/-- The fields of a record, one after another. -/
def readFields (normal : String → String) (helper : Bool) (readings : List (String × Reading)) :
    List FieldDecl → Option (List (FieldDecl × Held))
  | [] => some []
  | f :: rest => do
    let held ← f.readFrom helper (givenUnder (f.keyIn normal) readings)
    let others ← readFields normal helper readings rest
    return (f, held) :: others

/-- A document other than `null` fills every `Option` around the type that it is read at. -/
def filling (base : Reading) : Reading
  | .option inner => (filling base inner).map .filled
  | type => base type

/-! ## Documents -/

/-- The fields of a record with the given name. -/
def Item.recordNamed? (name : String) : Item → Option (List FieldDecl)
  | .struct own fields => if own = name then some fields else none
  | .synonym _ _ => none

/-- The type that an item stands for. -/
def Item.type : Item → TypeExpr
  | .struct name _ => .named name
  | .synonym _ type => type

namespace Declarations

/-- The fields of the record that is declared under a name. -/
def record? (d : Declarations) (name : String) : Option (List FieldDecl) :=
  d.items.findSome? (Item.recordNamed? name)

mutual

/-- What a document is read as. -/
def readAt (normal : String → String) (d : Declarations) : Json → Reading
  | .null => fun
    | .option _ => some .empty
    | _ => none
  | .bool b => filling fun
    | .boolean => some (.boolean b)
    | _ => none
  | .number n => filling fun
    | .number => n.toDouble?.map .number
    | _ => none
  | .string s => filling fun
    | .string => some (.string s)
    | _ => none
  | .array items => filling fun
    | .list item => (readItems normal d items item).map .list
    | _ => none
  | .object members => filling fun
    | .named name =>
      (d.record? name).bind fun fields =>
        (readFields normal d.needsPresent (readMembers normal d members) fields).map .record
    | _ => none

def readItems (normal : String → String) (d : Declarations) : List Json → TypeExpr → Option (List Held)
  | [], _ => some []
  | item :: rest, type => do
    let held ← readAt normal d item type
    let others ← readItems normal d rest type
    return held :: others

def readMembers (normal : String → String) (d : Declarations) : List (String × Json) → List (String × Reading)
  | [] => []
  | (name, value) :: rest => (name, readAt normal d value) :: readMembers normal d rest

end

end Declarations

namespace Held

def isEmpty : Held → Bool
  | empty => true
  | _ => false

mutual

/-- The document that is written for a value. -/
def toJson (normal : String → String) : Held → Json
  | string s => .string s
  | number x => .number (.double x)
  | boolean b => .bool b
  | empty => .null
  | filled inner => toJson normal inner
  | list items => .array (toJsonItems normal items)
  | record fields => .object (toJsonFields normal fields)

def toJsonItems (normal : String → String) : List Held → List Json
  | [] => []
  | item :: rest => toJson normal item :: toJsonItems normal rest

/-- The members for the fields, without those that are left out while they hold nothing. -/
def toJsonFields (normal : String → String) : List (FieldDecl × Held) → List (String × Json)
  | [] => []
  | (f, held) :: rest =>
    if f.skipsEmpty && held.isEmpty then toJsonFields normal rest
    else (f.keyIn normal, toJson normal held) :: toJsonFields normal rest

end

end Held

end JsonShape
