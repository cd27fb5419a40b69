import ModelSchema.Settings

/-!
# Arguments of the command line

A command with options, flags and at most one positional argument. A value may be attached to its
option or follow it; after two hyphens everything is positional.

## Main definitions

* `Command` — what is asked for.
* `ArgumentFault` — why the arguments ask for no command.
* `Command.parse` — the command of a list of arguments.
-/

namespace ModelSchema

/-- The arguments of `generate`. -/
structure GenerateArguments where
  overrides : Overrides := {}
  settings : Option Path := none
  verbose : Bool := false
deriving DecidableEq, Repr

/-- What is asked for. -/
inductive Command where
  | generate (arguments : GenerateArguments)
  | inspect (root settings : Option Path)
  | version
deriving DecidableEq, Repr

/-- Why the arguments ask for no command; help and version are asked for in this way too. -/
inductive ArgumentFault where
  | displayHelp
  | displayVersion
  | missingSubcommand
  | invalidSubcommand
  | unknownArgument
  | invalidValue
  /-- An argument that may be given once is given twice. -/
  | argumentConflict
  | tooManyValues
deriving DecidableEq, Repr

namespace CommandLine

/-! ## What a command accepts -/

/-- What an option takes. -/
inductive OptionKind where
  | flag
  | help
  | version
  /-- A path, which must not be empty. -/
  | path
  | text
  /-- A text, any number of times. -/
  | texts
deriving DecidableEq, Repr

/-- An option by its names. -/
structure OptionSpec where
  long : String
  short : Option Char := none
  kind : OptionKind
deriving DecidableEq, Repr

/-- Whether an option takes a value. -/
def OptionSpec.takesValue (o : OptionSpec) : Bool :=
  o.kind == .path || o.kind == .text || o.kind == .texts

/-- The options of a command, and whether it has a positional argument. -/
structure CommandSpec where
  options : List OptionSpec
  hasRoot : Bool
deriving DecidableEq, Repr

def helpOption : OptionSpec := ⟨"help", some 'h', .help⟩

/-- The positional argument. -/
def rootArgument : OptionSpec := ⟨"", none, .path⟩

def generateSpec : CommandSpec where
  options := [⟨"output", some 'o', .path⟩, ⟨"provider", none, .text⟩, ⟨"exclude", none, .texts⟩,
    ⟨"no-preserve", none, .flag⟩, ⟨"no-docs", none, .flag⟩, ⟨"watch", some 'w', .flag⟩,
    ⟨"config", some 'c', .path⟩, ⟨"verbose", some 'v', .flag⟩, helpOption]
  hasRoot := true

def inspectSpec : CommandSpec where
  options := [⟨"config", some 'c', .path⟩, helpOption]
  hasRoot := true

def versionSpec : CommandSpec where
  options := [helpOption]
  hasRoot := false

/-- The options before a subcommand. -/
def topOptions : List OptionSpec := [helpOption, ⟨"version", some 'V', .version⟩]

def subcommands : List String := ["generate", "inspect", "version", "help"]

/-! ## Reading arguments -/

/-- What has been read: values by the long name of their option, in order, and an argument that is
recorded once it is complete. -/
structure Reading where
  given : List (String × String) := []
  pending : Option (OptionSpec × Option String) := none
  onlyPositional : Bool := false
  positionals : Nat := 0
deriving DecidableEq, Repr

namespace Reading

/-- An occurrence of an option recorded. -/
def record (r : Reading) (o : OptionSpec) (value : Option String) :
    Except ArgumentFault Reading :=
  match o.kind, value with
  | .help, _ => .error .displayHelp
  | .version, _ => .error .displayVersion
  | _, value =>
    if o.takesValue && value.isNone then .error .invalidValue
    else if o.kind != .texts && r.given.any (·.1 == o.long) then .error .argumentConflict
    else if o.kind == .path && value == some "" then .error .invalidValue
    else .ok { r with given := r.given ++ [(o.long, value.getD "")] }

/-- The pending argument recorded. -/
def settle (r : Reading) : Except ArgumentFault Reading :=
  match r.pending with
  | some (o, value) => { r with pending := none }.record o value
  | none => .ok r

/-- An occurrence of an option recorded behind the pending argument. -/
def add (r : Reading) (o : OptionSpec) (value : Option String) : Except ArgumentFault Reading := do
  let r ← r.settle
  r.record o value

/-- An option that awaits its value. -/
def await (r : Reading) (o : OptionSpec) : Except ArgumentFault Reading := do
  let r ← r.settle
  return { r with pending := some (o, none) }

end Reading

/-- An argument that starts with two hyphens, given its text behind them. -/
def longOption (options : List OptionSpec) (r : Reading) (text : List Char) :
    Except ArgumentFault Reading :=
  let name := text.takeWhile (· != '=')
  let attached : Option String :=
    if name.length < text.length then some (String.ofList (text.drop (name.length + 1))) else none
  match options.find? (·.long == String.ofList name) with
  | none => .error .unknownArgument
  | some o =>
    match o.takesValue, attached with
    | true, some value => r.add o (some value)
    | true, none => r.await o
    | false, some _ => .error .tooManyValues
    | false, none => r.add o none

/-- Short options behind one hyphen: flags, and at the end an option with a value. -/
def shortOptions (options : List OptionSpec) (r : Reading) :
    List Char → Except ArgumentFault Reading
  | [] => .ok r
  | c :: rest =>
    match options.find? (·.short == some c) with
    | none => .error .unknownArgument
    | some o =>
      if o.takesValue then
        match rest with
        | [] => r.await o
        | '=' :: value => r.add o (some (String.ofList value))
        | value => r.add o (some (String.ofList value))
      else do
        let r ← r.add o none
        shortOptions options r rest

/-- An argument that is no option: the value of the option before it, or the positional one. -/
def plainArgument (spec : CommandSpec) (r : Reading) (text : String) :
    Except ArgumentFault Reading :=
  match r.pending, r.onlyPositional with
  | some (o, none), false => .ok { r with pending := some (o, some text) }
  | _, _ =>
    if spec.hasRoot && r.positionals == 0 then do
      let r ← r.settle
      return { r with pending := some (rootArgument, some text), positionals := 1 }
    else .error .unknownArgument

/-- One more argument. -/
def argument (spec : CommandSpec) (r : Reading) (text : String) : Except ArgumentFault Reading :=
  if r.onlyPositional then plainArgument spec r text
  else match text.toList with
    | ['-', '-'] => .ok { r with onlyPositional := true }
    | '-' :: '-' :: name => longOption spec.options r name
    | '-' :: c :: rest => shortOptions spec.options r (c :: rest)
    | _ => plainArgument spec r text

/-- The arguments of a command: values by the long name of their option. -/
def arguments (spec : CommandSpec) (texts : List String) :
    Except ArgumentFault (List (String × String)) := do
  let r ← texts.foldlM (argument spec) ({} : Reading)
  let r ← r.settle
  return r.given

/-- The arguments of `help`: names of subcommands, of which only the first level has any. -/
def helpOf : List String → ArgumentFault
  | [] => .displayHelp
  | [name] => if subcommands.contains name then .displayHelp else .invalidSubcommand
  | _ => .invalidSubcommand

end CommandLine

namespace Command

open CommandLine

/-- The value given for an option. -/
def valueOf (given : List (String × String)) (long : String) : Option String := given.lookup long

/-- The path given for an option. -/
def pathOf (given : List (String × String)) (long : String) : Option Path :=
  (valueOf given long).map Path.mk

/-- Whether a flag is given. -/
def flagOf (given : List (String × String)) (long : String) : Bool := (valueOf given long).isSome

/-- The command `generate` with what is given. -/
def generateWith (given : List (String × String)) : Command :=
  .generate {
    overrides := {
      root := pathOf given ""
      output := pathOf given "output"
      provider := valueOf given "provider"
      exclude := (given.filter (·.1 == "exclude")).map (·.2)
      noPreserve := flagOf given "no-preserve"
      noDocs := flagOf given "no-docs"
      watch := flagOf given "watch" }
    settings := pathOf given "config"
    verbose := flagOf given "verbose" }

/-- The arguments before and from the subcommand on. -/
def parseTop (onlyPositional : Bool) : List String → Except ArgumentFault Command
  | [] => .error .missingSubcommand
  | text :: rest =>
    if onlyPositional then
      .error (if subcommands.contains text then .unknownArgument else .invalidSubcommand)
    else if text = "generate" then (arguments generateSpec rest).map generateWith
    else if text = "inspect" then
      (arguments inspectSpec rest).map fun given =>
        .inspect (pathOf given "") (pathOf given "config")
    else if text = "version" then (arguments versionSpec rest).map fun _ => .version
    else if text = "help" then .error (helpOf rest)
    else match text.toList with
      | ['-', '-'] => parseTop true rest
      | '-' :: '-' :: name =>
        match longOption topOptions {} name with
        | .error fault => .error fault
        | .ok _ => .error .unknownArgument
      | '-' :: c :: more =>
        match shortOptions topOptions {} (c :: more) with
        | .error fault => .error fault
        | .ok _ => .error .unknownArgument
      | _ => .error .invalidSubcommand

/-- The command of a list of arguments. -/
def parse (texts : List String) : Except ArgumentFault Command := parseTop false texts

end Command

end ModelSchema
