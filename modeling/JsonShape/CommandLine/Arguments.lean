import JsonShape.CommandLine.Options
import JsonShape.Text.Digits
import JsonShape.Validation.Walk

/-!
# The commands

`check` validates documents and reports, `rust`, `schema` and `shape` write what a schema amounts to in
another language.  `Invocation.ofArguments` reads the arguments that follow the name of the program.
-/

namespace JsonShape

/-- How a report is written. -/
inductive ReportFormat where
  | text
  | json
deriving DecidableEq

namespace ReportFormat

def ofName? : String → Option ReportFormat
  | "text" => some text
  | "json" => some json
  | _ => none

end ReportFormat

/-- What is to be checked, and how that is reported. -/
structure CheckOptions where
  schema : String
  inputs : List String
  linewise : Bool
  pointer : Option String
  cap : Nat
  format : ReportFormat
  emit : Bool

inductive Command where
  | check (options : CheckOptions)
  | rust (path root : String) (out : Option String)
  | jsonSchema (path : String) (title out : Option String)
  | shape (path : String)

/-- The names of the commands. -/
inductive CommandName where
  | check
  | rust
  | schema
  | shape
deriving DecidableEq

def CommandName.ofText? : String → Option CommandName
  | "check" => some check
  | "rust" => some rust
  | "schema" => some schema
  | "shape" => some shape
  | _ => none

/-- The number below `2 ^ 64` that a text writes in digits, with or without a plus sign. -/
def readCount (text : String) : Option Nat :=
  match text.toList with
  | '+' :: digits => wordOfDigits? digits
  | digits => wordOfDigits? digits

namespace OptionSpec

def checkPath (value : String) : Except UsageFault Unit :=
  if value = "" then .error .invalidValue else .ok ()

def checkCount (value : String) : Except UsageFault Unit :=
  if (readCount value).isSome then .ok () else .error .valueValidation

def checkFormat (value : String) : Except UsageFault Unit :=
  if (ReportFormat.ofName? value).isSome then .ok () else .error .invalidValue

def checkNothing (_ : String) : Except UsageFault Unit := .ok ()

/-- The options that can be given anywhere. -/
def everywhere : List OptionSpec :=
  [⟨"verbose", some 'v', .count, checkNothing⟩, ⟨"help", some 'h', .help, checkNothing⟩]

/-- The options before the name of the command. -/
def outermost : List OptionSpec := ⟨"version", some 'V', .version, checkNothing⟩ :: everywhere

def schemaFile : OptionSpec := ⟨"schema", some 's', .one, checkPath⟩

def outFile : OptionSpec := ⟨"out", some 'o', .one, checkPath⟩

/-- The options of a command. -/
def ofCommand : CommandName → List OptionSpec
  | .check =>
    [schemaFile, ⟨"ndjson", none, .flag, checkNothing⟩,
     ⟨"json-pointer", none, .one, checkNothing⟩, ⟨"input", some 'i', .many, checkNothing⟩,
     ⟨"max-depth", none, .one, checkCount⟩, ⟨"format", none, .one, checkFormat⟩,
     ⟨"emit", none, .flag, checkNothing⟩] ++ everywhere
  | .rust => [schemaFile, ⟨"root-type", none, .one, checkNothing⟩, outFile] ++ everywhere
  | .schema => [schemaFile, ⟨"title", none, .one, checkNothing⟩, outFile] ++ everywhere
  | .shape => schemaFile :: everywhere

end OptionSpec

/-- The value of an option that has to be given. -/
def required (given : Given) (name : String) : Except UsageFault String :=
  match given.value? name with
  | some value => .ok value
  | none => .error .missingRequiredArgument

/-- The command that some options make up. -/
def Command.ofGiven (given : Given) : CommandName → Except UsageFault Command
  | .check => do
    let schema ← required given "schema"
    let _ ← required given "input"
    return .check
      { schema, inputs := given.values "input", linewise := given.has "ndjson"
        pointer := given.value? "json-pointer"
        cap := ((given.value? "max-depth").bind readCount).getD Schema.defaultCap
        format := ((given.value? "format").bind ReportFormat.ofName?).getD .text
        emit := given.has "emit" }
  | .rust => do
    return .rust (← required given "schema") ((given.value? "root-type").getD "Root")
      (given.value? "out")
  | .schema => do
    return .jsonSchema (← required given "schema") (given.value? "title") (given.value? "out")
  | .shape => do return .shape (← required given "schema")

/-- A command, and how often more logging was asked for. -/
structure Invocation where
  verbosity : Nat
  command : Command

namespace Invocation

/-- The text that `help` answers with, if it is asked about a command or nothing. -/
def helpAbout : List String → UsageFault
  | [] => .displayHelp
  | [topic] =>
    if (CommandName.ofText? topic).isSome || topic = "help" then .displayHelp else .invalidSubcommand
  | _ => .invalidSubcommand

/-- The fault of arguments without a command. -/
def noCommand (state : OptionState) : UsageFault :=
  if state.given.isEmpty then .helpForNothing else .missingSubcommand

/-- Reads the arguments of a command. -/
def ofCommandArguments (outer : Given) (name : CommandName) (arguments : List String) :
    Except UsageFault Invocation := do
  let given ← readOptions (OptionSpec.ofCommand name) OptionState.empty arguments
  let command ← Command.ofGiven given name
  return ⟨outer.count "verbose" + given.count "verbose", command⟩

/-- The fault of a command that is named after two hyphens alone. -/
def afterHyphens (state : OptionState) : List String → UsageFault
  | [] => noCommand state
  | text :: _ =>
    if (CommandName.ofText? text).isSome || text = "help" then .unknownArgument
    else .invalidSubcommand

/-- Reads arguments up to the name of a command, and then its arguments. -/
def read (state : OptionState) : List String → Except UsageFault Invocation
  | [] => .error (noCommand state)
  | "--" :: rest => .error (afterHyphens state rest)
  | "help" :: rest => .error (helpAbout rest)
  | text :: rest =>
    match CommandName.ofText? text with
    | some name => ofCommandArguments state.given name rest
    | none => do
      match ← state.argument OptionSpec.outermost text with
      | some state => read state rest
      | none => .error .invalidSubcommand

/-- Reads the arguments that follow the name of the program. -/
def ofArguments (arguments : List String) : Except UsageFault Invocation :=
  read OptionState.empty arguments

end Invocation

end JsonShape
