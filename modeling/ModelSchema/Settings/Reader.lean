import ModelSchema.Settings
import ModelSchema.Toml.Reader

/-!
# Settings from TOML

A section is a table; a key that is missing keeps its default and an unknown one is passed over. A
section may also be an array that gives its values in the order in which the section has them.

## Main definitions

* `Settings.ofToml?` — the settings that a document describes, if its values have the right types.
* `Settings.read` — the settings of a text that can be used.
-/

namespace ModelSchema

namespace Settings

open Toml (Value)

/-- The value of a field of a section: under its name in a table, at its place in an array. -/
def fieldValue? (part : Value) (name : String) (place : Nat) : Option Value :=
  match part with
  | .table entries => entries.lookup name
  | .array items => items[place]?
  | _ => none

/-- A field of a section as `convert` reads it, or its default if it is missing. -/
def field? {α : Type} (part : Value) (name : String) (place : Nat) (default : α)
    (convert : Value → Option α) : Option α :=
  match fieldValue? part name place with
  | none => some default
  | some v => convert v

def string? : Value → Option String
  | .string s => some s
  | _ => none

def path? (v : Value) : Option Path := (string? v).map Path.mk

def boolean? : Value → Option Bool
  | .boolean b => some b
  | _ => none

def natural? : Value → Option Nat
  | .integer n => if 0 ≤ n then some n.toNat else none
  | _ => none

def strings? : Value → Option (List String)
  | .array items => items.mapM string?
  | _ => none

def classifierNamed? (name : String) : Option ClassifierKind :=
  if name = "naming" then some .naming
  else if name = "marker" then some .marker
  else none

/-- A classifier: its name, or a table with the name as its one key and nothing in it. -/
def classifier? : Value → Option ClassifierKind
  | .string s => classifierNamed? s
  | .table [(name, .table [])] => classifierNamed? name
  | .table [(name, .array [])] => classifierNamed? name
  | _ => none

/-- Whether a value can be a section. A date has no keys of its own, so it leaves the defaults. -/
def isSection : Value → Bool
  | .table _ | .array _ | .dateTime => true
  | _ => false

def source? (v : Value) : Option SourceSettings := do
  guard (isSection v)
  let defaults : SourceSettings := {}
  let root ← field? v "root" 0 defaults.root path?
  let extensions ← field? v "extensions" 1 defaults.extensions strings?
  let exclude ← field? v "exclude" 2 defaults.exclude strings?
  return { root, extensions, exclude }

def output? (v : Value) : Option OutputSettings := do
  guard (isSection v)
  let defaults : OutputSettings := {}
  let path ← field? v "path" 0 defaults.path path?
  let provider ← field? v "provider" 1 defaults.provider string?
  let urlVariable ← field? v "url_env" 2 defaults.urlVariable string?
  let preservePreamble ← field? v "preserve_preamble" 3 defaults.preservePreamble boolean?
  let includeDocs ← field? v "include_docs" 4 defaults.includeDocs boolean?
  return { path, provider, urlVariable, preservePreamble, includeDocs }

def models? (v : Value) : Option ModelSettings := do
  guard (isSection v)
  let defaults : ModelSettings := {}
  let classifier ← field? v "classifier" 0 defaults.classifier classifier?
  let pinned ← field? v "pinned" 1 defaults.pinned strings?
  let excludedSuffixes ← field? v "excluded_suffixes" 2 defaults.excludedSuffixes strings?
  let marker ← field? v "marker" 3 defaults.marker string?
  return { classifier, pinned, excludedSuffixes, marker }

def watch? (v : Value) : Option WatchSettings := do
  guard (isSection v)
  let defaults : WatchSettings := {}
  let isEnabled ← field? v "enabled" 0 defaults.isEnabled boolean?
  let debounce ← field? v "debounce_ms" 1 defaults.debounce natural?
  let stability ← field? v "stability_ms" 2 defaults.stability natural?
  return { isEnabled, debounce, stability }

/-- The settings that the table of a document describes. -/
def ofTable? (v : Value) : Option Settings := do
  let source ← field? v "source" 0 {} source?
  let output ← field? v "output" 1 {} output?
  let models ← field? v "models" 2 {} models?
  let watch ← field? v "watch" 3 {} watch?
  return { source, output, models, watch }

/-- The settings that a document describes. -/
def ofToml? (text : String) : Option Settings :=
  (Toml.read? text).bind fun entries => ofTable? (.table entries)

/-- The settings of a text, or why it has none. -/
def parse (text : String) : Except Failure Settings :=
  match ofToml? text with
  | some s => .ok s
  | none => .error .settingsSyntax

/-- The settings of a text if they can be used. -/
def read (text : String) : Except Failure Settings := do
  let s ← parse text
  s.validate
  return s

end Settings

end ModelSchema
