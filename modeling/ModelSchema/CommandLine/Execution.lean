import ModelSchema.CommandLine.Arguments
import ModelSchema.Inspection
import ModelSchema.Pass
import ModelSchema.Settings.Reader
import ModelSchema.Watch.Session

/-!
# Execution of commands

What a command does to a tree of files and what it prints.

## Main definitions

* `Settings.load`, `Settings.loadOrDefault` — the settings of a file.
* `CommandLine.Execution`, `CommandLine.execute` — a command carried out.
* `CommandLine.Exit`, `CommandLine.invoke` — exit code and output for a list of arguments.
-/

namespace ModelSchema

namespace Settings

/-- The file with settings that is looked for in the working directory. -/
def defaultFile : Path := ⟨"prisma-typegen.toml"⟩

/-- The settings of a file. -/
def load (t : FileTree) (p : Path) : Except Failure Settings :=
  match t.readText p with
  | .ok text => read text
  | .error fault => .error (.io fault)

/-- The settings of a file, or the defaults if it has none that can be used. -/
def loadOrDefault (t : FileTree) (p : Path) : Settings :=
  match load t p with
  | .ok s => s
  | .error _ => {}

/-- The settings of the named file, or those of the default one if none is named. -/
def choose (t : FileTree) (named : Option Path) : Except Failure Settings :=
  match named with
  | some p => load t p
  | none => .ok (loadOrDefault t defaultFile)

end Settings

namespace CommandLine

/-- Name and version of the program. -/
def versionText : String := "prisma-typegen 0.1.0"

/-- A command carried out: its output, the tree that it leaves, and why it failed. A command that
watches goes on with `session`. -/
structure Execution where
  output : String := ""
  tree : FileTree
  result : Except Failure Unit := .ok ()
  session : Option Session := none

/-- A command that fails before it changes anything. -/
def Execution.failed (output : String) (tree : FileTree) (failure : Failure) : Execution :=
  { output, tree, result := .error failure }

def yesNo (b : Bool) : String := if b then "true" else "false"

def classifierText : ClassifierKind → String
  | .naming => "Naming"
  | .marker => "Marker"

/-- The settings of a pass as they are shown on request. -/
def settingsText (s : Settings) : String :=
  "Source: " ++ s.source.root.text ++ "\nOutput: " ++ s.output.path.text ++
  "\nExtensions: " ++ Text.shownList s.source.extensions ++
  "\nExclude: " ++ Text.shownList s.source.exclude ++
  "\nClassifier: " ++ classifierText s.models.classifier ++
  "\nPreserve preamble: " ++ yesNo s.output.preservePreamble ++ "\n"

/-- How many of the files that were passed over are listed. -/
def listedFailures : Nat := 5

/-- The files that were passed over. -/
def failuresText (failures : List (Path × String)) : String :=
  if failures.isEmpty then ""
  else
    "\nSkipped files (" ++ toString failures.length ++ "):\n" ++
    String.join ((failures.take listedFailures).map fun (p, reason) =>
      "  " ++ p.text ++ ": " ++ reason ++ "\n") ++
    if failures.length > listedFailures then
      "  ... and " ++ toString (failures.length - listedFailures) ++ " more\n"
    else ""

/-- The command `generate`. -/
def generate (t : FileTree) (time : Timestamp) (a : GenerateArguments) : Execution :=
  let settings := do
    let s := (← Settings.choose t a.settings).override a.overrides
    s.validate
    return s
  match settings with
  | .error failure => .failed "" t failure
  | .ok s =>
    let shown := if a.verbose then settingsText s else ""
    if s.watch.isEnabled then
      match Session.start s t time with
      | .error failure => .failed shown t failure
      | .ok (session, tree) =>
        { output := shown, tree, session := if session.canWatch tree then some session else none }
    else match run s t time with
      | (.error failure, tree) => .failed shown tree failure
      | (.ok report, tree) =>
        { output := shown ++ report.summary ++ "\n" ++ failuresText report.failures, tree }

/-- The command `inspect`. -/
def inspect (t : FileTree) (root named : Option Path) : Execution :=
  let text : Except Failure String := do
    let s := (← Settings.choose t named).override { root }
    s.validate
    if !t.pathExists s.source.root then throw (.pathNotFound s.source.root)
    let directory ← SourceDirectory.ofSettings s.source
    return (analyze s.models (directory.files t)).inspect
  match text with
  | .error failure => .failed "" t failure
  | .ok text => { output := text ++ "\n", tree := t }

/-- A command carried out. -/
def execute (t : FileTree) (time : Timestamp) : Command → Execution
  | .generate a => generate t time a
  | .inspect root named => inspect t root named
  | .version => { output := versionText ++ "\n", tree := t }

/-- What the program accepts. -/
def helpText : String :=
  "Generate a Prisma schema from TypeScript interfaces\n\n" ++
  "Usage: prisma-typegen <COMMAND>\n\n" ++
  "Commands:\n" ++
  "  generate  Scan a source tree and write the schema file\n" ++
  "  inspect   Print the resolved model registry as JSON\n" ++
  "  version   Show version information\n" ++
  "  help      Print this message\n"

/-- The end of a run of the program: its exit code, what it prints, and the text that tells why it
failed. -/
structure Exit where
  code : Nat
  output : String
  complaint : Option String
  tree : FileTree
  session : Option Session := none

/-- The first line of the text that tells why a run failed. -/
def Exit.complaintLine? (e : Exit) : Option String :=
  e.complaint.bind fun text =>
    (Text.lines (text.toList ++ ['\n'])).head?.map String.ofList

/-- The end of a run with these arguments. -/
def invoke (t : FileTree) (time : Timestamp) (texts : List String) : Exit :=
  match Command.parse texts with
  | .error .displayHelp => ⟨0, helpText, none, t, none⟩
  | .error .displayVersion => ⟨0, versionText ++ "\n", none, t, none⟩
  | .error _ => ⟨2, "", none, t, none⟩
  | .ok command =>
    let e := execute t time command
    match e.result with
    | .ok () => ⟨0, e.output, none, e.tree, e.session⟩
    | .error failure => ⟨1, e.output, some ("Error: " ++ failure.message), e.tree, none⟩

end CommandLine

end ModelSchema
