import JsonShape.Json.Basic
import JsonShape.Text.Digits

/-!
# Pointers into documents

A pointer selects a place in a document.  The empty pointer selects the whole; any other one is a
sequence of tokens, each after a slash, that name members of objects or, by their index, elements of
arrays.  In a token a tilde and a slash are written with a tilde and a digit.
-/

namespace JsonShape.Json

/-- The tokens of what follows the first slash. -/
def pointerTokens : List Char → List (List Char)
  | [] => [[]]
  | '/' :: rest => [] :: pointerTokens rest
  | '~' :: '1' :: rest => addTo '/' (pointerTokens rest)
  | '~' :: '0' :: rest => addTo '~' (pointerTokens rest)
  | c :: rest => addTo c (pointerTokens rest)
where
  /-- Puts a character in front of the first token. -/
  addTo (c : Char) : List (List Char) → List (List Char)
    | [] => [[c]]
    | token :: tokens => (c :: token) :: tokens

/-- The index that a token stands for; one of several digits does not begin with zero. -/
def pointerIndex? (token : List Char) : Option Nat :=
  match token with
  | '0' :: _ :: _ => none
  | digits => wordOfDigits? digits

/-- What a token selects. -/
def member? (document : Json) (token : List Char) : Option Json :=
  match document with
  | object members => Members.get? (String.ofList token) members
  | array items => (pointerIndex? token).bind fun i => items[i]?
  | _ => none

/-- What a pointer selects. -/
def select? (document : Json) (pointer : String) : Option Json :=
  match pointer.toList with
  | [] => some document
  | '/' :: rest => (pointerTokens rest).foldlM member? document
  | _ => none

end JsonShape.Json
