import JsonShape.CommandLine.Arguments
import JsonShape.CommandLine.Outcome
import JsonShape.Projection.Declarations
import JsonShape.Projection.JsonSchema
import JsonShape.Projection.Shape
import JsonShape.Schema.Descriptor

/-!
# Running a command

A command is run over a console: it prints, writes files and may fail on the way, and what was printed and written
by then stays (`Command.perform`).  `Command.run` is what a run over a file tree comes to: the text printed, a file
that was written, and whether every document passed, or the messages of a failure.

`Screen` is what a terminal shows of that: two channels and an exit code.
-/

namespace JsonShape

/-- A file to be written: its path and its text. -/
structure Output where
  path : String
  text : String
deriving DecidableEq

/-- What came of a command: the text printed, the file written and the tree after that, and whether
all is well. -/
structure RunOutcome where
  printed : String
  output : Option Output
  tree : FileTree
  passed : Bool

/-- What a run has printed so far, the file it has written, and the tree as it is by then. -/
structure Console where
  printed : String
  output : Option Output
  tree : FileTree

/-- The console of a run that has not begun. -/
def Console.over (tree : FileTree) : Console := ⟨"", none, tree⟩

/-- A run, or a part of it.  A failure leaves the console as it is by then. -/
abbrev Run (α : Type) : Type := ExceptT Trouble (StateM Console) α

namespace Run

/-- What a run comes to on a console, and the console after it. -/
def on {α : Type} (run : Run α) (console : Console) : Except Trouble α × Console := run.run.run console

/-- Goes on with a result, or fails. -/
def attempt {α : Type} (result : Except Trouble α) : Run α := ExceptT.mk (pure result)

/-- The tree as it is. -/
def tree : Run FileTree := do return (← get).tree

def print (text : String) : Run Unit :=
  modify fun console => { console with printed := console.printed ++ text }

def setTree (tree : FileTree) : Run Unit := modify fun console => { console with tree }

def setOutput (output : Output) : Run Unit := modify fun console => { console with output := some output }

end Run

/-- Reads the descriptor at a path. -/
def loadSchema (tree : FileTree) (path : String) : Except Trouble Schema :=
  explain ("failed to load schema " ++ path) id do
    let text ← (tree.readText path).mapError fun fault =>
      ["failed to read descriptor " ++ literal path ++ ": " ++ fault.message, fault.message]
    (Schema.ofDescriptor text).mapError fun e => [e.message]

/-- Makes the directories on the way to a path. -/
def makeParent (path : String) : Run Unit :=
  match PathText.parent? path with
  | none => return ()
  | some parent => do
    Run.setTree (← Run.attempt (explain ("failed to create " ++ parent) (fun e => [FileFault.message e])
      ((← Run.tree).makeDirectories parent)))

/-- Writes a text to a path, after the directories on the way to it; without a path it is printed. -/
def deliver (out : Option String) (text : String) : Run Unit :=
  match out with
  | none => Run.print (text ++ "\n")
  | some path => do
    makeParent path
    Run.setTree (← Run.attempt (explain ("failed to write " ++ path) (fun e => [FileFault.message e])
      ((← Run.tree).write path text)))
    Run.setOutput ⟨path, text⟩

/-- What became of every document of a check. -/
def checkOutcomes (tree : FileTree) (options : CheckOptions) :
    Except Trouble (List DocumentOutcome) := do
  let schema ← loadSchema tree options.schema
  let documents ← loadDocuments tree options.linewise options.pointer options.inputs
  return documents.map (DocumentOutcome.ofDocument schema options.cap)

/-- What the report says about one document. -/
def DocumentOutcome.entry (color : Bool) (options : CheckOptions) (o : DocumentOutcome) : String :=
  match options.format with
  | .text => o.text color options.emit
  | .json => (o.toJson options.emit).compact ++ "\n"

/-- Prints what the report says about each document. -/
def report (color : Bool) (options : CheckOptions) (outcomes : List DocumentOutcome) : Run Unit :=
  outcomes.forM fun o => Run.print (o.entry color options)

namespace Command

/-- Runs a command, which answers whether all is well. -/
def perform (color : Bool) : Command → Run Bool
  | check options => do
    let outcomes ← Run.attempt (checkOutcomes (← Run.tree) options)
    report color options outcomes
    return outcomes.all DocumentOutcome.passed
  | rust path root out => do
    let schema ← Run.attempt (loadSchema (← Run.tree) path)
    deliver out (Declarations.empty.declare schema root).text
    return true
  | jsonSchema path title out => do
    let schema ← Run.attempt (loadSchema (← Run.tree) path)
    deliver out (schema.jsonSchemaDocument title).pretty
    return true
  | shape path => do
    let schema ← Run.attempt (loadSchema (← Run.tree) path)
    Run.print (schema.shape ++ "\n")
    return true

/-- What a run over a file tree comes to. -/
def run (tree : FileTree) (color : Bool) (command : Command) : Except Trouble RunOutcome :=
  match (command.perform color).on (Console.over tree) with
  | (.ok passed, console) => .ok ⟨console.printed, console.output, console.tree, passed⟩
  | (.error trouble, _) => .error trouble

/-- The schema file of a command. -/
def schemaPath : Command → String
  | check options => options.schema
  | rust path _ _ => path
  | jsonSchema path _ _ => path
  | shape path => path

/-- The inputs of a command. -/
def inputs : Command → List String
  | check options => options.inputs
  | _ => []

/-- The path that a command writes to. -/
def outPath? : Command → Option String
  | rust _ _ out => out
  | jsonSchema _ _ out => out
  | _ => none

end Command

/-- What a terminal shows of a run, and the exit code. -/
structure Screen where
  printed : String
  complaints : String
  exitCode : Nat
deriving DecidableEq

namespace Screen

/-- A text behind a label as wide as the margin, which all further lines of the text begin with. -/
def hanging (label : String) (margin : Nat) (text : String) : String :=
  label ++ String.ofList (text.toList.flatMap fun c =>
    if c = '\n' then '\n' :: List.replicate margin ' ' else [c]) ++ "\n"

/-- Numbers the causes of a failure. -/
def numbered (n : Nat) : List String → String
  | [] => ""
  | cause :: rest => hanging ("    " ++ toString n ++ ": ") 7 cause ++ numbered (n + 1) rest

/-- The causes of a failure below their heading; a single cause has no number. -/
def causes : List String → String
  | [] => ""
  | [cause] => "\nCaused by:\n" ++ hanging "    " 4 cause
  | several => "\nCaused by:\n" ++ numbered 0 several

/-- A failure as it is shown, below what was printed before it. -/
def ofTrouble (printed : String) : Trouble → Screen
  | [] => ⟨printed, "Error: \n", 1⟩
  | outer :: inner => ⟨printed, "Error: " ++ outer ++ "\n" ++ causes inner, 1⟩

/-- The name of the program and its version. -/
def versionText : String := "shape-guard 0.1.0\n"

/-- How the program is used. -/
def usageText : String :=
  "Usage: shape-guard [OPTIONS] <COMMAND>\n\n" ++
  "Commands:\n" ++
  "  check   validate documents and report every mismatch\n" ++
  "  rust    emit a Rust data model for the descriptor\n" ++
  "  schema  emit a JSON Schema for the descriptor\n" ++
  "  shape   print the compact shape of the descriptor\n"

/-- What is shown for arguments that make up no command. -/
def ofUsage : UsageFault → Screen
  | .displayVersion => ⟨versionText, "", 0⟩
  | .displayHelp => ⟨usageText, "", 0⟩
  | fault => ⟨"", "error: " ++ fault.name ++ "\n\n" ++ usageText, fault.exitCode⟩

/-- What is shown for a run that has printed a text and come to a result. -/
def ofResult (printed : String) : Except Trouble Bool → Screen
  | .ok passed => ⟨printed, "", if passed then 0 else 1⟩
  | .error trouble => ofTrouble printed trouble

/-- What is shown for the outcome of a command. -/
def ofRun : Except Trouble RunOutcome → Screen
  | .ok outcome => ofResult outcome.printed (.ok outcome.passed)
  | .error trouble => ofResult "" (.error trouble)

end Screen

end JsonShape
