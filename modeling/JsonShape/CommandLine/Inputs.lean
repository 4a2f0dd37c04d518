import JsonShape.Files.Glob
import JsonShape.Json.Pointer
import JsonShape.Json.Reader
import JsonShape.Text.Blank

/-!
# The documents of a check

Inputs are paths and patterns.  `expandInputs` finds the files they name, each once and under a label,
and `loadDocuments` reads the documents in them: one a file, or one a line.

A failure is a list of messages, from the whole to the cause.
-/

namespace JsonShape

/-- The messages of a failure, from the outermost to the root cause. -/
abbrev Trouble : Type := List String

/-- Puts a message around a failure. -/
def explain {α ε : Type} (message : String) (causes : ε → Trouble) (result : Except ε α) :
    Except Trouble α :=
  result.mapError fun e => message :: causes e

/-- A file, and the name its documents are reported under. -/
structure Source where
  path : String
  label : String
deriving DecidableEq

/-- Whether a character makes a path a pattern. -/
def isWildcardChar (c : Char) : Bool := c == '*' || c == '?' || c == '['

/-- The fixed directory of a pattern, the text up to the last separator before the first wildcard;
`none` for a path without wildcards. -/
def fixedDirectory? (input : String) : Option String :=
  let fixed := input.toList.takeWhile fun c => !isWildcardChar c
  if fixed.length = input.toList.length then none
  else some (String.ofList (fixed.reverse.dropWhile (· != '/')).reverse)

/-- Adds a source unless there is one of the same path, compared by components. -/
def addSource (sources : List Source) (source : Source) : List Source :=
  let wanted := PathText.components source.path
  if sources.any fun other => PathText.components other.path == wanted then sources
  else sources ++ [source]

/-- A match of a pattern, labelled by its path below the fixed directory. -/
def sourceOfMatch (directory path : String) : Source :=
  ⟨path, (PathText.after? directory path).getD path⟩

/-- Adds the sources of one input. -/
def expandInput (tree : FileTree) (sources : List Source) (input : String) :
    Except Trouble (List Source) :=
  match fixedDirectory? input with
  | none => .ok (addSource sources ⟨input, input⟩)
  | some directory => do
    let pattern ← explain ("bad glob pattern: " ++ input) (fun e => [BadPattern.message e])
      (PathPattern.ofText input)
    match ← explain ("unreadable match for " ++ input) (fun e => [UnreadableDirectory.message e])
        (pattern.paths tree) with
    | [] => .error ["glob pattern matched no files: " ++ input]
    | paths => return (paths.map (sourceOfMatch directory)).foldl addSource sources

/-- The files that some inputs name, in order and each once. -/
def expandInputs (tree : FileTree) (inputs : List String) : Except Trouble (List Source) :=
  inputs.foldlM (expandInput tree) []

/-- A document under its label; the value is missing if nothing was selected. -/
structure Document where
  label : String
  value : Option Json

/-- The lines of a text.  A line ends with a line feed, or with a carriage return before it; what
follows the last of them is a line unless it is empty. -/
def linesOf : List Char → List (List Char)
  | [] => []
  | '\n' :: rest => [] :: linesOf rest
  | '\r' :: '\n' :: rest => [] :: linesOf rest
  | c :: rest =>
    match linesOf rest with
    | [] => [[c]]
    | line :: lines => (c :: line) :: lines

/-- The JSON document of a text; the label is named if the text holds none. -/
def documentOf (label text : String) : Except Trouble Json :=
  explain ("failed to parse JSON (" ++ label ++ ")") (fun e => [Misread.message e]) (Json.ofText text)

/-- What a pointer, if there is one, selects in a document. -/
def selected (pointer : Option String) (document : Json) : Option Json :=
  match pointer with
  | none => some document
  | some pointer => document.select? pointer

/-- The documents of the lines from the given number on; blank lines are passed over but counted. -/
def documentsOfLines (pointer : Option String) (label : String) (number : Nat) :
    List (List Char) → Except Trouble (List Document)
  | [] => .ok []
  | line :: rest =>
    if line.all isBlank then documentsOfLines pointer label (number + 1) rest
    else do
      let lineLabel := label ++ ":" ++ toString number
      let document ← documentOf lineLabel (String.ofList line)
      let others ← documentsOfLines pointer label (number + 1) rest
      return ⟨lineLabel, selected pointer document⟩ :: others

/-- The documents of a source. -/
def documentsOfSource (tree : FileTree) (linewise : Bool) (pointer : Option String)
    (source : Source) : Except Trouble (List Document) := do
  let text ← explain ("failed to read input " ++ source.path) (fun e => [FileFault.message e])
    (tree.readText source.path)
  if linewise then documentsOfLines pointer source.label 1 (linesOf text.toList)
  else do
    let document ← documentOf source.path text
    return [⟨source.label, selected pointer document⟩]

/-- The documents of all inputs, in order. -/
def loadDocuments (tree : FileTree) (linewise : Bool) (pointer : Option String)
    (inputs : List String) : Except Trouble (List Document) := do
  let sources ← expandInputs tree inputs
  let documents ← sources.mapM (documentsOfSource tree linewise pointer)
  return documents.flatten

end JsonShape
