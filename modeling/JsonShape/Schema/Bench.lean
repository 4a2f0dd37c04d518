import JsonShape.Schema.Basic

/-!
# A bench for building schemas

Schemas are put together on a stack of drafts.  A draft is fresh as long as it is a base rule or a
record that was made here; only a fresh draft can be wrapped by the fluent operators, while `wrap` wraps
any.  A move that cannot be made leaves the bench as it is.
-/

namespace JsonShape

/-- A schema on the bench, and whether it is a base rule that was made there. -/
structure Draft where
  schema : Schema
  fresh : Bool

/-- The rules around another one. -/
inductive Wrapper where
  | optional
  | nullable
  | array
deriving DecidableEq

/-- The wrapper around a schema. -/
def Wrapper.around (w : Wrapper) (schema : Schema) : Schema :=
  match w with
  | optional => .optional schema
  | nullable => .nullable schema
  | array => .array schema

/-- A move on the bench. -/
inductive Move where
  /-- Puts a base rule on top. -/
  | fresh (schema : Schema)
  /-- Puts a schema on top that was made elsewhere. -/
  | load (schema : Schema)
  /-- Makes a record of as many drafts as there are names, the lowest for the first name. -/
  | record (names : List String)
  /-- Wraps the top so many times. -/
  | wrap (wrapper : Wrapper) (times : Nat)
  /-- Wraps the top once if it is fresh. -/
  | fluent (wrapper : Wrapper)
  | dup
  | drop
  | swap

/-- Why a move cannot be made. -/
inductive Refusal where
  /-- There are too few drafts. -/
  | underflow
  /-- The top is not fresh. -/
  | notFresh
deriving DecidableEq

/-- The drafts, the top first. -/
abbrev Bench : Type := List Draft

namespace Bench

def play (bench : Bench) : Move → Except Refusal Bench
  | .fresh schema => .ok (⟨schema, true⟩ :: bench)
  | .load schema => .ok (⟨schema, false⟩ :: bench)
  | .record names =>
    if bench.length < names.length then .error .underflow
    else
      let rules := (bench.take names.length).reverse.map Draft.schema
      .ok (⟨.record (names.zip rules), true⟩ :: bench.drop names.length)
  | .wrap wrapper times =>
    match bench with
    | [] => .error .underflow
    | top :: rest => .ok (⟨Nat.repeat wrapper.around times top.schema, false⟩ :: rest)
  | .fluent wrapper =>
    match bench with
    | [] => .error .underflow
    | top :: rest =>
      if top.fresh then .ok (⟨wrapper.around top.schema, false⟩ :: rest) else .error .notFresh
  | .dup =>
    match bench with
    | [] => .error .underflow
    | top :: rest => .ok (top :: top :: rest)
  | .drop =>
    match bench with
    | [] => .error .underflow
    | _ :: rest => .ok rest
  | .swap =>
    match bench with
    | top :: next :: rest => .ok (next :: top :: rest)
    | _ => .error .underflow

/-- Whether the two topmost schemas have the same rules. -/
def topTwoSame : Bench → Except Refusal Bool
  | top :: next :: _ => .ok (top.schema.same next.schema)
  | _ => .error .underflow

end Bench

end JsonShape
