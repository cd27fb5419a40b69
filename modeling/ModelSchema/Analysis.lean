import ModelSchema.Extraction
import ModelSchema.Source

/-!
# Analysis of a list of files

The models of all files in one registry, with their relations. Files that cannot be read are
passed over and listed, and so are the names that came more than once.

## Main definitions

* `Analysis` — the result.
* `Scan`, `Scan.file` — the registry while it is being filled, and one more file.
* `analyze` — the analysis of a list of files.
-/

namespace ModelSchema

/-- What a list of files gives. -/
structure Analysis where
  registry : Registry
  filesScanned : Nat
  /-- The files that were passed over, and why. -/
  failures : List (Path × String)
  /-- The names that came again; the last model of a name counts. -/
  duplicates : List String
  relations : ResolveCounts

/-- A registry while it is being filled. -/
structure Scan where
  registry : Registry := .empty
  failures : List (Path × String) := []
  duplicates : List String := []

namespace Scan

/-- One more model. -/
def model (s : Scan) (m : Model) : Scan :=
  { s with
    registry := s.registry.insert m
    duplicates := if s.registry.contains m.name then s.duplicates ++ [m.name] else s.duplicates }

/-- One more file. -/
def file (models : ModelSettings) (s : Scan) (f : SourceFile) : Scan :=
  match f.text with
  | .ok text => (extract models f.path text).foldl model s
  | .error failure => { s with failures := s.failures ++ [(f.path, failure.message)] }

end Scan

/-- The registry of a list of files before its relations are known. -/
def scanFiles (models : ModelSettings) (files : List SourceFile) : Scan :=
  files.foldl (Scan.file models) {}

/-- The analysis of a list of files. -/
def analyze (models : ModelSettings) (files : List SourceFile) : Analysis :=
  let scan := scanFiles models files
  let (registry, relations) := scan.registry.resolve models.excludedSuffixes
  ⟨registry, files.length, scan.failures, scan.duplicates, relations⟩

end ModelSchema
