import JsonShape.Files.PathText
import JsonShape.Members

/-!
# File trees

A file tree is a directory with everything below it, and a current directory in it.  Paths are looked up
piece by piece from the current directory, or from the root if they are absolute; two points lead back
up, and every piece but the last has to be a directory.

* `FileTree.trail` finds the way along a path, and `FileTree.locate` the place that it leads to.
* `FileTree.readText` reads a file as text; `FileTree.entries` lists a directory.
* `FileTree.makeDirectories` and `FileTree.write` change the tree.
* `FileTree.changed` compares two trees.
-/

namespace JsonShape

/-- A file with its bytes, or a directory with what is in it. -/
inductive Entry where
  | file (bytes : ByteArray)
  | directory (entries : List (String × Entry))

/-- Why a file cannot be used. -/
inductive FileFault where
  | notFound
  | fileExists
  | notDirectory
  | isDirectory
  | nameTooLong
  | nulInPath
  | notText
deriving DecidableEq

namespace FileFault

def message : FileFault → String
  | notFound => "No such file or directory (os error 2)"
  | fileExists => "File exists (os error 17)"
  | notDirectory => "Not a directory (os error 20)"
  | isDirectory => "Is a directory (os error 21)"
  | nameTooLong => "File name too long (os error 36)"
  | nulInPath => "file name contained an unexpected NUL byte"
  | notText => "stream did not contain valid UTF-8"

end FileFault

namespace Entry

def isDirectory : Entry → Bool
  | file _ => false
  | directory _ => true

/-- What a directory holds; a file holds nothing. -/
def entries : Entry → List (String × Entry)
  | file _ => []
  | directory entries => entries

/-- What lies at the end of some names. -/
def at? (entry : Entry) : List String → Option Entry
  | [] => some entry
  | name :: rest =>
    match Members.get? name entry.entries with
    | some inner => inner.at? rest
    | none => none

/-- Puts something at the end of some names; all but the last must be directories, or be missing and
are then made. -/
def put (entry : Entry) (new : Entry) : List String → Entry
  | [] => new
  | name :: rest =>
    let inner := (Members.get? name entry.entries).getD (directory [])
    directory (Members.put name (inner.put new rest) entry.entries)

mutual

/-- Every file below, with the names on the way to it. -/
def files : Entry → List (List String × ByteArray)
  | file bytes => [([], bytes)]
  | directory entries => filesOf entries

def filesOf : List (String × Entry) → List (List String × ByteArray)
  | [] => []
  | (name, entry) :: rest =>
    (files entry).map (fun (names, bytes) => (name :: names, bytes)) ++ filesOf rest

end

/-- Puts an entry before the first one whose name comes after its own. -/
def insertByName (entry : String × Entry) : List (String × Entry) → List (String × Entry)
  | [] => [entry]
  | other :: rest =>
    if entry.1 < other.1 then entry :: other :: rest else other :: insertByName entry rest

mutual

/-- Every directory sorted by the code points of its names. -/
def sorted : Entry → Entry
  | file bytes => file bytes
  | directory entries => directory (sortedEntries entries)

def sortedEntries : List (String × Entry) → List (String × Entry)
  | [] => []
  | (name, entry) :: rest => insertByName (name, sorted entry) (sortedEntries rest)

end

end Entry

/-- The names that lead from the root to a place. -/
abbrev Location : Type := List String

/-- The way from a root to a place: what lies on it, under its names, the last first. -/
abbrev Trail : Type := List (String × Entry)

namespace Trail

/-- The place that a trail leads to. -/
def location (trail : Trail) : Location := (Members.names trail).reverse

/-- What lies at the end of a trail from a root. -/
def last (root : Entry) : Trail → Entry
  | [] => root
  | (_, entry) :: _ => entry

/-- Whether a name has more bytes than the name of a file can have. -/
def isTooLong (name : String) : Bool := 255 < name.utf8ByteSize

/-- Goes one piece further. -/
def follow (root : Entry) (trail : Trail) (piece : String) : Except FileFault Trail :=
  match trail.last root with
  | .file _ => .error .notDirectory
  | .directory entries =>
    if piece = "." then .ok trail
    else if piece = ".." then .ok (trail.drop 1)
    else if isTooLong piece then .error .nameTooLong
    else
      match Members.get? piece entries with
      | some entry => .ok ((piece, entry) :: trail)
      | none => .error .notFound

end Trail

structure FileTree where
  root : Entry
  current : Location

namespace FileTree

/-- The pieces that are looked up one by one; a separator at the end wants a directory. -/
def steps (path : String) : List String :=
  let pieces := (PathText.pieces path).filter fun piece => piece != ""
  if path.toList.getLast? = some '/' then pieces ++ ["."] else pieces

/-- Refuses the texts that are no paths: those with a NUL, the empty one, and those of 4096 bytes or
more. -/
def checkPath (path : String) : Except FileFault Unit :=
  if '\x00' ∈ path.toList then .error .nulInPath
  else if path = "" then .error .notFound
  else if 4096 ≤ path.utf8ByteSize then .error .nameTooLong
  else .ok ()

/-- Where the steps of a path begin. -/
def origin (tree : FileTree) (path : String) : Location :=
  if PathText.isAbsolute path then [] else tree.current

/-- The trail along some pieces from a place. -/
def walk (tree : FileTree) (start : Location) (pieces : List String) : Except FileFault Trail :=
  (start ++ pieces).foldlM (Trail.follow tree.root) []

/-- The trail along a path. -/
def trail (tree : FileTree) (path : String) : Except FileFault Trail := do
  checkPath path
  tree.walk (tree.origin path) (steps path)

/-- The place that a path leads to. -/
def locate (tree : FileTree) (path : String) : Except FileFault Location :=
  (tree.trail path).map Trail.location

/-- What a path leads to. -/
def find? (tree : FileTree) (path : String) : Option Entry :=
  match tree.trail path with
  | .ok trail => some (trail.last tree.root)
  | .error _ => none

/-- Whether a path leads to anything. -/
def pathExists (tree : FileTree) (path : String) : Bool := (tree.find? path).isSome

/-- Whether a path leads to a directory. -/
def isDirectory (tree : FileTree) (path : String) : Bool :=
  match tree.find? path with
  | some entry => entry.isDirectory
  | none => false

/-- The text of the file that a path leads to. -/
def readText (tree : FileTree) (path : String) : Except FileFault String := do
  match (← tree.trail path).last tree.root with
  | .file bytes =>
    match String.fromUTF8? bytes with
    | some text => .ok text
    | none => .error .notText
  | .directory _ => .error .isDirectory

/-- Makes a directory at a path that is given by its pieces. -/
def makeDirectory (tree : FileTree) (start : Location) (pieces : List String) :
    Except FileFault FileTree := do
  let parent ← tree.walk start pieces.dropLast
  match parent.last tree.root, pieces.getLast? with
  | .directory entries, some name =>
    if Trail.isTooLong name then .error .nameTooLong
    else if name = "." ∨ name = ".." ∨ name ∈ Members.names entries then .error .fileExists
    else .ok { tree with root := tree.root.put (.directory []) (parent.location ++ [name]) }
  | .directory _, none => .error .fileExists
  | .file _, _ => .error .notDirectory

/-- Whether pieces lead to a directory. -/
def leadsToDirectory (tree : FileTree) (start : Location) (pieces : List String) : Bool :=
  match tree.walk start pieces with
  | .ok trail => (trail.last tree.root).isDirectory
  | .error _ => false

/-- Makes a directory if there is none yet, after those that are missing on the way to it.  The pieces
are given from the last to the first. -/
def makeAll (tree : FileTree) (start : Location) : List String → Except FileFault FileTree
  | [] => .ok tree
  | last :: before =>
    let pieces := (last :: before).reverse
    match tree.makeDirectory start pieces with
    | .ok tree => .ok tree
    | .error .notFound => do
      let tree ← tree.makeAll start before
      match tree.makeDirectory start pieces with
      | .ok tree => .ok tree
      | .error fault => if tree.leadsToDirectory start pieces then .ok tree else .error fault
    | .error fault => if tree.leadsToDirectory start pieces then .ok tree else .error fault

/-- Makes the directory of a path and all that are missing on the way to it; the empty path is the
current directory. -/
def makeDirectories (tree : FileTree) (path : String) : Except FileFault FileTree := do
  if path = "" then return tree
  checkPath path
  tree.makeAll (tree.origin path) ((PathText.components path).filter (· != "/")).reverse

/-- Writes a file, new or in place of an old one.  A path with a separator at its end can only name a
directory. -/
def write (tree : FileTree) (path : String) (text : String) : Except FileFault FileTree := do
  checkPath path
  let pieces := (PathText.pieces path).filter fun piece => piece != ""
  let parent ← tree.walk (tree.origin path) pieces.dropLast
  match parent.last tree.root, pieces.getLast? with
  | .directory entries, some name =>
    if name = "." ∨ name = ".." ∨ path.toList.getLast? = some '/' then .error .isDirectory
    else if Trail.isTooLong name then .error .nameTooLong
    else
      match Members.get? name entries with
      | some (.directory _) => .error .isDirectory
      | _ => .ok { tree with root := tree.root.put (.file text.toUTF8) (parent.location ++ [name]) }
  | .directory _, none => .error .isDirectory
  | .file _, _ => .error .notDirectory

/-- What the directory that a path leads to holds, in the order of the tree. -/
def entries (tree : FileTree) (path : String) : Except FileFault (List (String × Entry)) := do
  match (← tree.trail path).last tree.root with
  | .directory entries => .ok entries
  | .file _ => .error .notDirectory

/-- The same tree with every directory sorted by name. -/
def sorted (tree : FileTree) : FileTree := { tree with root := tree.root.sorted }

/-- The files of a tree that are not in another one or have other bytes there. -/
def changed (before after : FileTree) : List (List String × ByteArray) :=
  let old := before.root.files
  after.root.files.filter fun (names, bytes) =>
    !old.any fun (oldNames, oldBytes) => oldNames == names && oldBytes == bytes

end FileTree

end JsonShape
