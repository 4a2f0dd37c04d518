import JsonShape.CommandLine.Run
import JsonShape.CommandLine.Terminal

/-!
# The program

Reads what a command may look at into a file tree, runs the command over it, and shows what came of it.
Only what the arguments name is read: the files on the way to every path, the names below the fixed
directory of every pattern, and then the contents of the schema and of every input.
-/

namespace JsonShape.Program

/-- The path of a location on the disk. -/
def pathOf (location : Location) : String := "/" ++ PathText.joined location

/-- Puts an empty directory at a location unless there is something already. -/
def addDirectory (root : Entry) (location : Location) : Entry :=
  if (root.at? location).isSome then root else root.put (.directory []) location

/-- Whether there is a directory at a path of the disk. -/
def isDirectory (path : String) : IO Bool := do ((← IO.currentDir) / path).isDir

/-- Whether there is anything at a path of the disk. -/
def isThere (path : String) : IO Bool := do ((← IO.currentDir) / path).pathExists

/-- The names in a directory of the disk. -/
def namesIn (path : String) : IO (List String) := do
  return (← ((← IO.currentDir) / path).readDir).toList.map fun entry => entry.fileName

/-- Adds what lies on the way along some pieces, with the contents of a file at their end. -/
def addWay (root : Entry) (here : Location) : List String → IO Entry
  | [] => return addDirectory root here
  | piece :: rest =>
    if piece = "." then addWay root here rest
    else if piece = ".." then addWay root here.dropLast rest
    else do
      let next := here ++ [piece]
      if ← isDirectory (pathOf next) then addWay (addDirectory root next) next rest
      else if ← isThere (pathOf next) then
        return root.put (.file (← IO.FS.readBinFile (pathOf next))) next
      else return root

/-- Adds the names below a directory, down to some level; the files are left empty. -/
def addBelow (root : Entry) (here : Location) : Nat → IO Entry
  | 0 => return root
  | levels + 1 => do
    let mut root := root
    for name in ← namesIn (pathOf here) do
      let next := here ++ [name]
      if ← isDirectory (pathOf next) then
        root ← addBelow (addDirectory root next) next levels
      else if (root.at? next).isNone then
        root := root.put (.file .empty) next
    return root

/-- Adds what lies on the way to a path. -/
def addPath (tree : FileTree) (path : String) : IO FileTree := do
  return { tree with root := ← addWay tree.root (tree.origin path) (FileTree.steps path) }

/-- The levels of directories that a pattern can reach below its fixed directory. -/
def levelsOf (pattern : String) : Nat :=
  if (pattern.splitOn "**").length > 1 then 255 else (PathText.pieces pattern).length

/-- Adds what an input may name. -/
def addInput (tree : FileTree) (input : String) : IO FileTree := do
  match fixedDirectory? input with
  | none => addPath tree input
  | some directory =>
    let tree ← addPath tree directory
    match tree.locate (if directory = "" then "." else directory) with
    | .error _ => return tree
    | .ok here =>
      if ← isDirectory (pathOf here) then
        return { tree with root := ← addBelow tree.root here (levelsOf input) }
      else return tree

/-- The part of the disk that a command may look at. -/
def treeFor (command : Command) : IO FileTree := do
  let current := (PathText.components (← IO.currentDir).toString).filter (· != "/")
  let mut tree : FileTree := ⟨addDirectory (.directory []) current, current⟩
  tree ← addPath tree command.schemaPath
  for path in command.outPath?.toList do
    tree ← addPath tree path
  for input in command.inputs do
    tree ← addInput tree input
  match expandInputs tree command.inputs with
  | .error _ => return tree
  | .ok sources =>
    for source in sources do
      tree ← addPath tree source.path
    return tree

/-- Writes a file, after the directories on the way to it. -/
def save (output : Output) : IO Unit := do
  match PathText.parent? output.path with
  | none => pure ()
  | some "" => pure ()
  | some parent => IO.FS.createDirAll parent
  IO.FS.writeFile output.path output.text

/-- Shows what is printed and what is complained about. -/
def display (screen : Screen) : IO UInt32 := do
  (← IO.getStdout).putStr screen.printed
  (← IO.getStderr).putStr screen.complaints
  return UInt32.ofNat screen.exitCode

/-- Runs the program with its arguments. -/
def run (arguments : List String) : IO UInt32 := do
  match Invocation.ofArguments arguments with
  | .error fault => display (Screen.ofUsage fault)
  | .ok invocation =>
    let color := usesColor (← IO.getEnv "CLICOLOR_FORCE") (← IO.getEnv "NO_COLOR")
      (← IO.getEnv "CLICOLOR") (← (← IO.getStdout).isTty)
    let tree ← treeFor invocation.command
    let (result, console) := (invocation.command.perform color).on (Console.over tree)
    console.output.forM save
    display (Screen.ofResult console.printed result)

end JsonShape.Program

/-- The program. -/
def main (arguments : List String) : IO UInt32 := JsonShape.Program.run arguments
