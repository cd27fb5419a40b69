import ModelSchema.Classifier
import ModelSchema.Failure
import ModelSchema.Text.Blank

/-!
# Settings

What a pass needs to know besides the sources: where these are, where the schema goes and how it
is headed, which declarations are models, and how to watch for changes.

## Main definitions

* `Settings` and its sections `SourceSettings`, `OutputSettings`, `ModelSettings`,
  `WatchSettings`, each with its defaults.
* `Overrides`, `Settings.override` — settings given on the command line.
* `Settings.validate` — the first setting that cannot be used.
-/

namespace ModelSchema

/-- Where the sources come from. -/
structure SourceSettings where
  root : Path := ⟨"src"⟩
  /-- Extensions of source files, in any letter case. -/
  extensions : List String := ["ts", "tsx", "mts", "cts"]
  /-- Parts of paths below the root, or patterns for them. -/
  exclude : List String := ["node_modules", "dist", "build", ".next", ".git", "coverage"]
deriving DecidableEq, Repr

/-- Where the schema goes and what heads it. -/
structure OutputSettings where
  path : Path := ⟨"prisma/schema.prisma"⟩
  provider : String := "postgresql"
  /-- The environment variable that holds the connection string. -/
  urlVariable : String := "DATABASE_URL"
  preservePreamble : Bool := true
  includeDocs : Bool := true
deriving DecidableEq, Repr

/-- How to watch for changes; times are in milliseconds. -/
structure WatchSettings where
  isEnabled : Bool := false
  debounce : Nat := 300
  stability : Nat := 100
deriving DecidableEq, Repr

/-- All settings. -/
structure Settings where
  source : SourceSettings := {}
  output : OutputSettings := {}
  models : ModelSettings := {}
  watch : WatchSettings := {}
deriving DecidableEq, Repr

/-- Settings given on the command line. -/
structure Overrides where
  root : Option Path := none
  output : Option Path := none
  provider : Option String := none
  exclude : List String := []
  noPreserve : Bool := false
  noDocs : Bool := false
  watch : Bool := false
deriving DecidableEq, Repr

namespace Settings

/-- The settings with those of the command line in the place of their own; exclusions are added
to. -/
def override (s : Settings) (o : Overrides) : Settings where
  source := { s.source with
    root := o.root.getD s.source.root
    exclude := s.source.exclude ++ o.exclude }
  output := { s.output with
    path := o.output.getD s.output.path
    provider := o.provider.getD s.output.provider
    preservePreamble := s.output.preservePreamble && !o.noPreserve
    includeDocs := s.output.includeDocs && !o.noDocs }
  models := s.models
  watch := { s.watch with isEnabled := s.watch.isEnabled || o.watch }

/-- Whether a text is empty or blank. -/
def isBlankText (s : String) : Bool := (Text.trim s.toList).isEmpty

/-- A failure unless the patterns among the exclusions can be compiled. -/
def validateExclude : List String → Except Failure Unit
  | [] => .ok ()
  | entry :: rest =>
    if Glob.isPattern entry then
      match Glob.compile entry with
      | .ok _ => validateExclude rest
      | .error fault => .error (.globPattern fault)
    else validateExclude rest

/-- A failure for the first setting that cannot be used. -/
def validate (s : Settings) : Except Failure Unit :=
  if s.source.extensions.isEmpty then
    .error (.settingsValue "at least one source extension required")
  else if isBlankText s.output.provider then
    .error (.settingsValue "provider must not be empty")
  else if isBlankText s.output.urlVariable then
    .error (.settingsValue "url_env must not be empty")
  else if s.models.classifier = .marker ∧ isBlankText s.models.marker then
    .error (.settingsValue "marker classifier needs a marker tag")
  else if s.watch.debounce = 0 then
    .error (.settingsValue "debounce_ms must be at least 1")
  else validateExclude s.source.exclude

end Settings

end ModelSchema
