/-!
# Options on a command line

An option is given as `--name value`, `--name=value`, `-n value`, `-nvalue` or `-n=value`, and short
flags can stand together behind one hyphen.  An option that has been named takes its values when the
next option is named or the arguments end; only then are they checked.

`readOptions` answers with the options that were given and their values, or with the first fault.
-/

namespace JsonShape

/-- Why the arguments make up no command, or which text is asked for instead of one. -/
inductive UsageFault where
  | displayHelp
  | displayVersion
  | helpForNothing
  | missingSubcommand
  | invalidSubcommand
  | unknownArgument
  | missingRequiredArgument
  | invalidValue
  | valueValidation
  | argumentConflict
  | tooManyValues
deriving DecidableEq

namespace UsageFault

def name : UsageFault → String
  | displayHelp => "DisplayHelp"
  | displayVersion => "DisplayVersion"
  | helpForNothing => "DisplayHelpOnMissingArgumentOrSubcommand"
  | missingSubcommand => "MissingSubcommand"
  | invalidSubcommand => "InvalidSubcommand"
  | unknownArgument => "UnknownArgument"
  | missingRequiredArgument => "MissingRequiredArgument"
  | invalidValue => "InvalidValue"
  | valueValidation => "ValueValidation"
  | argumentConflict => "ArgumentConflict"
  | tooManyValues => "TooManyValues"

/-- The exit code: asking for a text is no failure. -/
def exitCode : UsageFault → Nat
  | displayHelp => 0
  | displayVersion => 0
  | _ => 2

end UsageFault

/-- What an option does. -/
inductive OptionUse where
  /-- Asks for the help text. -/
  | help
  /-- Asks for the version. -/
  | version
  /-- May be given any number of times, without a value. -/
  | count
  /-- May be given once, without a value. -/
  | flag
  /-- May be given once, with one value. -/
  | one
  /-- May be given any number of times, with one or more values. -/
  | many
deriving DecidableEq

/-- An option, and the check of its values. -/
structure OptionSpec where
  name : String
  letter : Option Char
  use : OptionUse
  check : String → Except UsageFault Unit

namespace OptionSpec

/-- Whether the option has values. -/
def takesValue (o : OptionSpec) : Bool := o.use == .one || o.use == .many

/-- Whether the option takes one more value after so many. -/
def takesMore (o : OptionSpec) (count : Nat) : Bool := o.use == .many || (o.use == .one && count == 0)

end OptionSpec

/-- The options that were given, each with its values, in order. -/
abbrev Given : Type := List (String × List String)

/-- What has been read of some arguments: the options given, and one that still waits for values. -/
structure OptionState where
  given : Given
  pending : Option (OptionSpec × List String)

namespace OptionState

def empty : OptionState := ⟨[], none⟩

/-- Takes an option with its values; only an option that can be repeated may have been given before. -/
def give (state : OptionState) (o : OptionSpec) (values : List String) :
    Except UsageFault OptionState := do
  if o.takesValue && values.isEmpty then throw .invalidValue
  if (o.use == .one || o.use == .flag) && state.given.any (·.1 == o.name) then
    throw .argumentConflict
  values.forM o.check
  return { state with given := state.given ++ [(o.name, values)] }

/-- Gives the waiting option the values it has. -/
def settle (state : OptionState) : Except UsageFault OptionState :=
  match state.pending with
  | none => .ok state
  | some (o, values) => OptionState.give ⟨state.given, none⟩ o values

/-- Names an option, with the value attached to it if there is one. -/
def nameOption (state : OptionState) (o : OptionSpec) (attached : Option String) :
    Except UsageFault OptionState := do
  let state ← state.settle
  match o.use, attached with
  | .help, _ => throw .displayHelp
  | .version, _ => throw .displayVersion
  | _, some value => state.give o [value]
  | _, none => if o.takesValue then return { state with pending := some (o, []) } else state.give o []

/-- Reads an argument that begins with two hyphens, after these. -/
def long (options : List OptionSpec) (state : OptionState) (text : List Char) :
    Except UsageFault OptionState :=
  let name := String.ofList (text.takeWhile (· != '='))
  let attached :=
    match text.dropWhile (· != '=') with
    | [] => none
    | _ :: value => some (String.ofList value)
  match options.find? fun o => o.name == name with
  | none => .error .unknownArgument
  | some o =>
    if !o.takesValue && attached.isSome then .error .tooManyValues
    else state.nameOption o attached

/-- The value attached to a letter. -/
def attachedTo : List Char → Option String
  | [] => none
  | '=' :: value => some (String.ofList value)
  | value => some (String.ofList value)

/-- Reads the letters of an argument that begins with one hyphen. -/
def short (options : List OptionSpec) (state : OptionState) :
    List Char → Except UsageFault OptionState
  | [] => .ok state
  | c :: rest =>
    match options.find? fun o => o.letter == some c with
    | none => .error .unknownArgument
    | some o =>
      if o.takesValue then state.nameOption o (attachedTo rest)
      else do short options (← state.nameOption o none) rest

/-- Takes an argument as one more value of the waiting option; `none` if nothing waits for it. -/
def more? (state : OptionState) (value : String) : Option OptionState :=
  match state.pending with
  | some (o, values) =>
    if o.takesMore values.length then some { state with pending := some (o, values ++ [value]) }
    else none
  | none => none

/-- Reads one argument.  An argument of two hyphens alone is not read here. -/
def argument (options : List OptionSpec) (state : OptionState) (text : String) :
    Except UsageFault (Option OptionState) :=
  match text.toList with
  | '-' :: '-' :: rest => (state.long options rest).map some
  | '-' :: c :: rest => (state.short options (c :: rest)).map some
  | _ => .ok (state.more? text)

end OptionState

/-- Reads arguments that are all options and their values.  After two hyphens alone nothing may
follow, and neither may a value that no option waits for. -/
def readOptions (options : List OptionSpec) (state : OptionState) :
    List String → Except UsageFault Given
  | [] => do return (← state.settle).given
  | "--" :: rest =>
    if rest.isEmpty then do return (← state.settle).given else .error .unknownArgument
  | text :: rest => do
    match ← state.argument options text with
    | some state => readOptions options state rest
    | none => .error .unknownArgument

namespace Given

/-- The values of an option, of all its occurrences. -/
def values (given : Given) (name : String) : List String :=
  given.flatMap fun (other, values) => if other == name then values else []

/-- The value of an option that is given at most once. -/
def value? (given : Given) (name : String) : Option String := (given.values name).head?

/-- How often an option is given. -/
def count (given : Given) (name : String) : Nat := (given.filter fun (other, _) => other == name).length

/-- Whether an option is given. -/
def has (given : Given) (name : String) : Bool := given.any fun (other, _) => other == name

end Given

end JsonShape
