import JsonShape.Files.Pattern
import JsonShape.Files.Tree

/-!
# Paths that match a pattern

A pattern is matched against a file tree component by component.  A component without wildcards need
only exist, one with wildcards is matched with the names in a directory, and `**` stands for every
directory below.  The matches come depth first: a directory is followed by what lies below it, and the
names of a directory are in order.  A directory that has to be read and cannot be makes the whole match
fail.
-/

namespace JsonShape

/-- A component of a pattern. -/
inductive PatternPart where
  | plain (name : String)
  | wild (wildcards : List Wildcard)
  | anyDirectories

namespace PatternPart

/-- The component that some wildcards make up. -/
def ofWildcards (wildcards : List Wildcard) : PatternPart :=
  match Wildcard.plain? wildcards with
  | some name => plain (String.ofList name)
  | none => if Wildcard.anyDirectories ∈ wildcards then anyDirectories else wild wildcards

/-- Whether a name found below some directory matches the component. -/
def accepts (name : String) : PatternPart → Bool
  | plain wanted => wanted == name
  | wild wildcards => Wildcard.matchAll wildcards name.toList
  | anyDirectories => true

/-- Two components for any directories in a row say no more than one. -/
def collapse : List PatternPart → List PatternPart
  | anyDirectories :: anyDirectories :: rest => collapse (anyDirectories :: rest)
  | part :: rest => part :: collapse rest
  | [] => []

end PatternPart

/-- A path that was reached, and whether a directory is there.  A directory tells that of the names in
it, even if the paths to them are too long to be looked up. -/
structure Reached where
  path : String
  isDirectory : Bool

/-- A directory that cannot be read, and why. -/
structure UnreadableDirectory where
  path : String
  fault : FileFault
deriving DecidableEq

def UnreadableDirectory.message (e : UnreadableDirectory) : String :=
  "attempting to read `" ++ e.path ++ "` resulted in an error: " ++ e.fault.message

/-- A pattern as it is matched: where it starts, its components, and whether it wants directories. -/
structure PathPattern where
  origin : String
  parts : List PatternPart
  wantsDirectory : Bool

namespace PathPattern

/-- The pieces of a pattern, of which an empty one at the end does not count. -/
def piecesOf (text : List Char) : List (List Char) :=
  let pieces := PathText.piecesOf text
  if pieces.getLast? = some [] then pieces.dropLast else pieces

/-- Reads a pattern, which is checked as a whole first and then component by component. -/
def ofText (text : String) : Except BadPattern PathPattern := do
  let _ ← Wildcard.ofText text.toList
  let absolute := PathText.isAbsolute text
  let pieces := piecesOf (if absolute then text.toList.drop 1 else text.toList)
  let wildcards ← pieces.mapM Wildcard.ofText
  return ⟨if absolute then "/" else ".", PatternPart.collapse (wildcards.map PatternPart.ofWildcards),
    text.toList.getLast? == some '/'⟩

/-- Whether a path is the current directory, which is then left out of the paths below it. -/
def isHere (path : String) : Bool := PathText.components path == ["."]

/-- The path of a name in a directory. -/
def below (path name : String) : String := if isHere path then name else PathText.join path name

mutual

/-- The paths, names and entries below a directory, each directory before what it holds. -/
def descendants (path : String) : Entry → List (String × String × Entry)
  | .file _ => []
  | .directory entries => descendantsOf path entries

def descendantsOf (path : String) : List (String × Entry) → List (String × String × Entry)
  | [] => []
  | (name, entry) :: rest =>
    (below path name, name, entry) ::
      (descendants (below path name) entry ++ descendantsOf path rest)

end

/-- The names for a directory and the one above it. -/
def dots : List String := ["..", "."]

/-- The dot names that a component with wildcards matches; it has to begin with a point. -/
def matchedDots (wildcards : List Wildcard) : List String :=
  if wildcards.head? = some (.char '.') then
    dots.filter fun name => Wildcard.matchAll wildcards name.toList
  else []

/-- What a directory holds, unless it cannot be read. -/
def listing (tree : FileTree) (path : String) :
    Except UnreadableDirectory (List (String × Entry)) :=
  (tree.entries path).mapError fun fault => ⟨path, fault⟩

/-- What is reached by looking a path up. -/
def look (tree : FileTree) (path : String) : Reached := ⟨path, tree.isDirectory path⟩

/-- The paths that some components lead to from what was reached before. -/
def expand (tree : FileTree) (wantsDirectory : Bool) :
    List PatternPart → Reached → Except UnreadableDirectory (List String)
  | [], reached => .ok (if wantsDirectory && !reached.isDirectory then [] else [reached.path])
  | .plain name :: rest, reached =>
    let next := below reached.path name
    if (if name ∈ dots then reached.isDirectory else tree.pathExists next) then
      expand tree wantsDirectory rest (look tree next)
    else .ok []
  | .wild wildcards :: rest, reached =>
    if reached.isDirectory then do
      let entries ← listing tree reached.path
      let fromDots ← (matchedDots wildcards).mapM fun name =>
        expand tree wantsDirectory rest (look tree (PathText.join reached.path name))
      let fromNames ← entries.mapM fun (name, entry) =>
        if Wildcard.matchAll wildcards name.toList then
          expand tree wantsDirectory rest ⟨below reached.path name, entry.isDirectory⟩
        else .ok []
      return fromDots.flatten ++ fromNames.flatten
    else .ok []
  | .anyDirectories :: rest, reached =>
    if reached.isDirectory then do
      let entries ← listing tree reached.path
      let matched ← (descendantsOf reached.path entries).mapM fun (inner, name, entry) => do
        let paths ←
          match rest with
          | [] => .ok (if entry.isDirectory then [inner] else [])
          | part :: rest =>
            if part.accepts name then
              expand tree wantsDirectory rest ⟨inner, entry.isDirectory⟩
            else .ok []
        if entry.isDirectory then discard (listing tree inner)
        return paths
      return matched.flatten
    else .ok []

/-- The paths in a file tree that match the pattern, unless a directory on the way cannot be read. -/
def paths (pattern : PathPattern) (tree : FileTree) :
    Except UnreadableDirectory (List String) :=
  expand tree.sorted pattern.wantsDirectory pattern.parts (look tree.sorted pattern.origin)

end PathPattern

end JsonShape
