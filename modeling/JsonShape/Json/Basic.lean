import JsonShape.Binary64.Basic
import JsonShape.Members

/-!
# JSON documents

A document is a tree of the six kinds of JSON value.  Objects keep their members in order; a tree that
was just read may name a member twice, and `Json.merged` leaves each name once, in its first place and
with its last value.

What is supplied at a place is an `Option Json`: `none` where nothing is supplied at all, which is
neither `null` nor any other document.  `Kind` tells the seven cases apart.
-/

namespace JsonShape

/-- A number is a whole number or a finite double; a double is never taken for a whole number. -/
inductive Number where
  | integer (n : Int)
  | double (x : Binary64)
deriving DecidableEq

inductive Json where
  | null
  | bool (b : Bool)
  | number (n : Number)
  | string (s : String)
  | array (items : List Json)
  | object (members : List (String × Json))

/-- The kind of what is supplied at a place. -/
inductive Kind where
  | string
  | number
  | boolean
  | object
  | array
  | null
  | missing
deriving DecidableEq

namespace Kind

/-- Every kind, in the order in which they are listed to the reader of a report. -/
def all : List Kind := [string, number, boolean, object, array, null, missing]

def name : Kind → String
  | string => "string"
  | number => "number"
  | boolean => "boolean"
  | object => "object"
  | array => "array"
  | null => "null"
  | missing => "missing"

/-- The kind with that name. -/
def ofName? (s : String) : Option Kind := all.find? fun k => k.name == s

theorem ofName?_name (k : Kind) : ofName? k.name = some k := by
  cases k <;> decide

end Kind

namespace Json

def kind : Json → Kind
  | null => .null
  | bool _ => .boolean
  | number _ => .number
  | string _ => .string
  | array _ => .array
  | object _ => .object

mutual

/-- Every object of the tree with each name once, in its first place and with its last value. -/
def merged : Json → Json
  | null => null
  | bool b => bool b
  | number n => number n
  | string s => string s
  | array items => array (mergedItems items)
  | object members => object (Members.merge (mergedMembers members))

def mergedItems : List Json → List Json
  | [] => []
  | item :: rest => merged item :: mergedItems rest

def mergedMembers : List (String × Json) → List (String × Json)
  | [] => []
  | (name, value) :: rest => (name, merged value) :: mergedMembers rest

end

mutual

/-- The levels of arrays and objects inside one another. -/
def nesting : Json → Nat
  | array items => nestingItems items + 1
  | object members => nestingMembers members + 1
  | _ => 0

def nestingItems : List Json → Nat
  | [] => 0
  | item :: rest => max (nesting item) (nestingItems rest)

def nestingMembers : List (String × Json) → Nat
  | [] => 0
  | (_, value) :: rest => max (nesting value) (nestingMembers rest)

end

/-- The members of an object; other documents have none. -/
def members : Json → List (String × Json)
  | object members => members
  | _ => []

end Json

/-- The kind of what is supplied, or `missing`. -/
def kindOf : Option Json → Kind
  | none => .missing
  | some document => document.kind

end JsonShape
