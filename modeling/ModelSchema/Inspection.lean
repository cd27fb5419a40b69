import ModelSchema.Analysis
import ModelSchema.Text.Quoted

/-!
# Analyses as JSON

The JSON text of an analysis, two blanks deeper on each level.

## Main definitions

* `JsonTree`, `JsonTree.pretty` — JSON values and their text.
* `Analysis.inspect` — the text of an analysis.
-/

namespace ModelSchema

/-- A JSON value; the keys of an object are in order. -/
inductive JsonTree where
  | null
  | boolean (b : Bool)
  | number (n : Nat)
  | string (s : String)
  | array (items : List JsonTree)
  | object (entries : List (String × JsonTree))

namespace JsonTree

/-- A string or null. -/
def ofOption (s : Option String) : JsonTree :=
  match s with
  | some s => .string s
  | none => .null

/-- Lines in brackets, or the brackets alone if there are none. -/
def bracketed (left right indent : String) (lines : List String) : String :=
  if lines.isEmpty then left ++ right
  else left ++ "\n" ++ ",\n".intercalate (lines.map fun line => indent ++ "  " ++ line) ++ "\n" ++
    indent ++ right

mutual

/-- The text of a value whose first line is indented already. -/
def pretty (indent : String) : JsonTree → String
  | .null => "null"
  | .boolean b => if b then "true" else "false"
  | .number n => toString n
  | .string s => Text.jsonQuoted s
  | .array items => bracketed "[" "]" indent (prettyItems (indent ++ "  ") items)
  | .object entries => bracketed "\x7b" "\x7d" indent (prettyEntries (indent ++ "  ") entries)

/-- The texts of the items of an array. -/
def prettyItems (indent : String) : List JsonTree → List String
  | [] => []
  | item :: items => item.pretty indent :: prettyItems indent items

/-- The texts of the entries of an object. -/
def prettyEntries (indent : String) : List (String × JsonTree) → List String
  | [] => []
  | (key, value) :: entries =>
    (Text.jsonQuoted key ++ ": " ++ value.pretty indent) :: prettyEntries indent entries

end

end JsonTree

/-- The name of a kind of relation in JSON. -/
def RelationKind.name : RelationKind → String
  | .none => "none"
  | .oneToMany => "oneToMany"
  | .oneToOne => "oneToOne"
  | .manyToOne => "manyToOne"

def Property.toJson (p : Property) : JsonTree := .object [
  ("name", .string p.name),
  ("raw_type", .string p.rawType),
  ("mapped_type", .object [
    ("scalar", .string p.columnType.scalar.name), ("list", .boolean p.columnType.isList)]),
  ("is_optional", .boolean p.isOptional),
  ("is_id", .boolean p.isId),
  ("relationship", .string p.relation.kind.name),
  ("relates_to", .string p.relation.target),
  ("relationship_field", .ofOption p.relation.field),
  ("doc_comment", .ofOption p.doc)]

def Model.toJson (m : Model) : JsonTree := .object [
  ("name", .string m.name),
  ("properties", .array (m.properties.map Property.toJson)),
  ("source_file", .string m.sourceFile),
  ("doc_comment", .ofOption m.doc)]

def Analysis.toJson (a : Analysis) : JsonTree := .object [
  ("registry", .object (a.registry.models.map fun m => (m.name, m.toJson))),
  ("files_scanned", .number a.filesScanned),
  ("failures", .array (a.failures.map fun (p, reason) =>
    .array [.string p.text, .string reason])),
  ("duplicates", .array (a.duplicates.map .string)),
  ("relations", .object [
    ("promoted", .number a.relations.promoted),
    ("degraded", .number a.relations.degraded),
    ("paired", .number a.relations.paired)])]

/-- The text of an analysis. -/
def Analysis.inspect (a : Analysis) : String := a.toJson.pretty ""

end ModelSchema
