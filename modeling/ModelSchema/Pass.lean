import ModelSchema.Analysis
import ModelSchema.Schema.Preamble
import ModelSchema.Schema.Store

/-!
# Passes

A pass reads the sources, renders the schema under the preamble of the stored one, and stores it.

## Main definitions

* `Generated`, `generate` — the schema of a list of files.
* `PassReport`, `runPass` — one pass over a list of files.
* `run` — one pass over the source directory of the settings.
-/

namespace ModelSchema

/-- A schema with the analysis it was rendered from. -/
structure Generated where
  analysis : Analysis
  preamble : PreambleOrigin
  text : String

/-- The schema of a list of files, under the preamble of the one stored in the tree. -/
def generate (s : Settings) (t : FileTree) (files : List SourceFile) (time : Timestamp) :
    Generated :=
  let existing := (t.readText s.output.path).toOption
  let preamble :=
    Preamble.load s.output.preservePreamble s.output.provider s.output.urlVariable existing
  let analysis := analyze s.models files
  ⟨analysis, preamble.origin,
    Schema.document analysis.registry s.output.includeDocs preamble.text time⟩

/-- What a pass did. -/
structure PassReport where
  filesScanned : Nat
  failures : List (Path × String)
  duplicates : List String
  modelsEmitted : Nat
  preamble : PreambleOrigin
  outcome : Schema.StoreOutcome
  output : Path
deriving DecidableEq, Repr

/-- The report in one line. -/
def PassReport.summary (r : PassReport) : String :=
  let action := match r.outcome with
    | .written => "wrote"
    | .unchanged => "unchanged"
  "Scanned " ++ toString r.filesScanned ++ " files, emitted " ++ toString r.modelsEmitted ++
    " models (" ++ action ++ " " ++ r.output.text ++ ")" ++
    if r.failures.isEmpty then "" else ", " ++ toString r.failures.length ++ " files skipped"

/-- One pass over a list of files, and the tree that it leaves. -/
def runPass (s : Settings) (t : FileTree) (files : List SourceFile) (time : Timestamp) :
    Except Failure PassReport × FileTree :=
  let generated := generate s t files time
  let (stored, t) := Schema.store t s.output.path generated.text
  let analysis := generated.analysis
  (stored.map fun outcome =>
    ⟨analysis.filesScanned, analysis.failures, analysis.duplicates, analysis.registry.size,
      generated.preamble, outcome, s.output.path⟩, t)

/-- One pass over the source directory of the settings. -/
def run (s : Settings) (t : FileTree) (time : Timestamp) : Except Failure PassReport × FileTree :=
  match SourceDirectory.ofSettings s.source with
  | .error failure => (.error failure, t)
  | .ok directory => runPass s t (directory.files t) time

end ModelSchema
