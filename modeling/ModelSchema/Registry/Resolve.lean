import ModelSchema.Registry
import ModelSchema.Spelling
import ModelSchema.Text.LowerCase

/-!
# Relations among the models of a registry

A property whose type names a model of the registry is a reference to it. References are found by
their spelling, kept where the named model exists, and an array of references to a model is paired
with the property of that model which is named after the owner of the array.

## Main definitions

* `Spelling.candidate?` — the relation that a spelling suggests.
* `Registry.markCandidates`, `Registry.dropUnknown`, `Registry.pairReferences` — the three steps.
* `Registry.resolve` — all of them, with counts of what they did.
-/

namespace ModelSchema

namespace Spelling

open Text

/-- Capitalised names of built-in types; a bare one is never a reference. -/
def builtinNames : List String := ["String", "Number", "Boolean", "Date"]

/-- Whether a name ends with one of the suffixes. -/
def hasSuffix (suffixes : List String) (name : List Char) : Bool :=
  suffixes.any fun s => s.toList.isSuffixOf name

/-- A single identifier in ASCII that starts with a capital. -/
def isTypeName : List Char → Bool
  | [] => false
  | c :: cs => c.isUpper && cs.all fun d => d.isAlphanum || d == '_' || d == '$'

/-- The relation that a spelling suggests: an array of a named type is one to many unless the
name has an excluded suffix, a bare name is one to one unless it is built in. -/
def candidate? (suffixes : List String) (raw : String) : Option (RelationKind × String) :=
  let compacted := compact raw.toList
  match element? compacted with
  | some element =>
    if isTypeName element && !hasSuffix suffixes element then
      some (.oneToMany, String.ofList element)
    else none
  | none =>
    if isTypeName compacted && !builtinNames.contains (String.ofList compacted) then
      some (.oneToOne, String.ofList compacted)
    else none

end Spelling

/-- What one resolution did. -/
structure ResolveCounts where
  /-- References to models of the registry. -/
  promoted : Nat := 0
  /-- References to anything else, left as plain columns. -/
  degraded : Nat := 0
  /-- Arrays of references that found the field pointing back. -/
  paired : Nat := 0
deriving DecidableEq, Repr

namespace Property

/-- The property with the relation that its spelling suggests and no other. -/
def mark (suffixes : List String) (p : Property) : Property :=
  match Spelling.candidate? suffixes p.rawType with
  | some (kind, target) => { p with relation := .unpaired kind target }
  | none => { p with relation := .absent }

/-- The property without a relation to a model that is not among `names`. -/
def keepKnown (names : List String) (p : Property) : Property :=
  if p.relation.isPresent && !names.contains p.relation.target then
    { p with relation := .absent }
  else p

end Property

/-- Whether a property may point back at the model `owner`: it is named after the owner, alone or
with `id` behind, in any letter case, and it is no relation yet or one to one. -/
def Property.pointsBackAt (owner : String) (p : Property) : Bool :=
  let name := Text.lowerOf p.name
  let lowered := Text.lowerOf owner
  (name == lowered || name == lowered ++ "id") &&
    (p.relation.kind == .none || p.relation.kind == .oneToOne)

/-- An array of references: its owner, its place there, and the model it refers to. -/
structure ForwardReference where
  owner : String
  index : Nat
  target : String
deriving DecidableEq, Repr

namespace Registry

/-- Every property with the relation that its spelling suggests. -/
def markCandidates (r : Registry) (suffixes : List String) : Registry :=
  r.mapProperties (·.mark suffixes)

/-- The properties of all models, in order. -/
def allProperties (r : Registry) : List Property := r.models.flatMap (·.properties)

/-- Only relations to models of the registry. -/
def dropUnknown (r : Registry) : Registry := r.mapProperties (·.keepKnown r.names)

/-- The arrays of references of all models, in order. -/
def forwardReferences (r : Registry) : List ForwardReference :=
  r.models.flatMap fun m => m.properties.zipIdx.filterMap fun (p, index) =>
    if p.relation.kind = .oneToMany then some ⟨m.name, index, p.relation.target⟩ else none

/-- The first property of the referenced model that may point back. -/
def backIndex? (r : Registry) (f : ForwardReference) : Option Nat :=
  (r.propertiesOf f.target).findIdx? (·.pointsBackAt f.owner)

/-- The array of references and the property at `back` made each other's partner. -/
def pairAt (r : Registry) (f : ForwardReference) (back : Nat) : Registry :=
  match (r.propertiesOf f.owner)[f.index]?, (r.propertiesOf f.target)[back]? with
  | some forward, some backward =>
    (r.modifyAt f.target back fun p =>
        { p with relation := ⟨.manyToOne, f.owner, some forward.name⟩ }).modifyAt f.owner f.index
      fun p => { p with relation := { p.relation with field := some backward.name } }
  | _, _ => r

/-- One array of references paired, if a property of its model may still point back. -/
def pairOne (state : Registry × Nat) (f : ForwardReference) : Registry × Nat :=
  match state.1.backIndex? f with
  | some back => (state.1.pairAt f back, state.2 + 1)
  | none => state

/-- The arrays of references paired one after the other, and how many found a partner. -/
def pairReferences (r : Registry) : Registry × Nat :=
  r.forwardReferences.foldl pairOne (r, 0)

/-- The registry with the relations of its models, and what was done. -/
def resolve (r : Registry) (suffixes : List String) : Registry × ResolveCounts :=
  let marked := r.markCandidates suffixes
  let references := marked.allProperties.filter (·.relation.isPresent)
  let promoted := references.countP fun p => marked.names.contains p.relation.target
  let (paired, count) := marked.dropUnknown.pairReferences
  (paired, ⟨promoted, references.length - promoted, count⟩)

end Registry

end ModelSchema
