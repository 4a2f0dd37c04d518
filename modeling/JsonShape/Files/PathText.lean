/-!
# The texts of file paths

A path is kept as the text that was given, since reports show it, and compared by its components:
repeated separators and points count for nothing, but a point at the very front is a component of its
own, and so is the separator of an absolute path.
-/

namespace JsonShape.PathText

/-- The pieces between separators. -/
def piecesOf : List Char → List (List Char)
  | [] => [[]]
  | c :: rest =>
    if c = '/' then [] :: piecesOf rest
    else
      match piecesOf rest with
      | [] => [[c]]
      | piece :: pieces => (c :: piece) :: pieces

/-- The pieces of a path. -/
def pieces (path : String) : List String := (piecesOf path.toList).map String.ofList

def isAbsolute (path : String) : Bool := path.toList.head? == some '/'

/-- Whether a piece that is not the first counts for nothing. -/
def isIdle (piece : String) : Bool := piece == "" || piece == "."

/-- The components of a path. -/
def components (path : String) : List String :=
  match pieces path with
  | [] => []
  | first :: rest =>
    let others := rest.filter fun piece => !isIdle piece
    if isAbsolute path then "/" :: others else if first = "" then others else first :: others

/-- Pieces with separators between them. -/
def joined (pieces : List String) : String := String.intercalate "/" pieces

/-- The pieces after so many components. -/
def piecesAfter : Nat → List String → List String
  | _, [] => []
  | 0, piece :: rest => if isIdle piece then piecesAfter 0 rest else piece :: rest
  | n + 1, piece :: rest =>
    if isIdle piece then piecesAfter (n + 1) rest else piecesAfter n rest

/-- The text of a path after the components of a base it begins with; `none` if it does not. -/
def after? (base path : String) : Option String :=
  let taken := (components base).length
  if components base ≠ (components path).take taken then none
  else if taken = 0 then some path
  else
    match pieces path with
    | [] => none
    | first :: rest =>
      some (joined (piecesAfter (if isAbsolute path || isIdle first then taken - 1 else taken)
        (if isAbsolute path || isIdle first then rest else first :: rest)))

/-- The pieces without those at the end that count for nothing. -/
def withoutIdleEnd (pieces : List String) : List String :=
  (pieces.reverse.dropWhile isIdle).reverse

/-- The text of the directory that a path lies in; `none` if the path has no components that can be
taken off. -/
def parent? (path : String) : Option String :=
  match pieces path with
  | [] => none
  | first :: rest =>
    match (withoutIdleEnd rest).reverse with
    | [] => if isAbsolute path || first = "" then none else some ""
    | _ :: before =>
      let kept := withoutIdleEnd before.reverse
      if isAbsolute path && kept.isEmpty then some "/" else some (joined (first :: kept))

/-- The text of a path with a piece put after it. -/
def join (path piece : String) : String :=
  if isAbsolute piece || path = "" then piece
  else if path.toList.getLast? = some '/' then path ++ piece
  else path ++ "/" ++ piece

end JsonShape.PathText
