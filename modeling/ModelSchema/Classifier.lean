import ModelSchema.Registry.Resolve

/-!
# Classifiers

The rule that decides which declarations are models: by the shape of their name, or by a marker
word in their doc comment. Pinned names are models under either rule.

## Main definitions

* `ClassifierKind`, `ModelSettings` — the choice of a rule and its data.
* `ModelSettings.isModel` — the decision.
-/

namespace ModelSchema

/-- The rule that decides which declarations are models. -/
inductive ClassifierKind where
  | naming
  | marker
deriving DecidableEq, Repr

/-- How models are told from other declarations. -/
structure ModelSettings where
  classifier : ClassifierKind := .naming
  /-- Names that are models in any case. -/
  pinned : List String := []
  /-- Ends of names that are no models. -/
  excludedSuffixes : List String := ["Props", "State", "Config", "Options", "Params", "Context",
    "Request", "Response", "Input", "Args"]
  /-- The word in a doc comment that marks a model. -/
  marker : String := "@model"
deriving DecidableEq, Repr

/-- A capital in ASCII at the front, not the letter `I` before a further capital, and no excluded
suffix. -/
def isModelName (suffixes : List String) (name : List Char) : Bool :=
  match name with
  | [] => false
  | c :: rest =>
    c.isUpper && !(c == 'I' && (rest.head?.any Char.isUpper)) && !Spelling.hasSuffix suffixes name

/-- Whether `marker` is one of the words of a doc comment. -/
def hasMarker (marker doc : String) : Bool :=
  (Text.words doc.toList).contains marker.toList

/-- Whether a declaration of that name and doc comment is a model. -/
def ModelSettings.isModel (s : ModelSettings) (name : String) (doc : Option String) : Bool :=
  s.pinned.contains name ||
    match s.classifier with
    | .naming => isModelName s.excludedSuffixes name.toList
    | .marker => doc.any (hasMarker s.marker)

end ModelSchema
