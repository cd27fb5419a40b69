import ModelSchema.Registry
import ModelSchema.Text.Lines
import ModelSchema.Text.LowerCase

/-!
# Model blocks

The block of a schema that declares one model: its fields in order with the doc lines above them,
and the indexes of its foreign keys. A block is data first and text last, so that what it declares
can be read off without parsing.

## Main definitions

* `FieldType`, `Attribute`, `Field`, `Entry`, `Block` — the contents of a block.
* `Model.block` — the block of a model.
* `Block.render` — its text.
-/

namespace ModelSchema

/-- The type of a field: a column type, or a model or a list of one. -/
inductive FieldType where
  | column (type : ColumnType)
  | model (name : String) (isList : Bool)
deriving DecidableEq, Repr

/-- The spelling of a field's type. -/
def FieldType.render : FieldType → String
  | .column type => type.render
  | .model name isList => if isList then name ++ "[]" else name

/-- What a field says besides its type. -/
inductive Attribute where
  | id
  | unique
  | defaultUuid
  | defaultAutoincrement
  | defaultNow
  | updatedAt
  /-- The foreign key `column` refers to the field `key` of the related model. -/
  | relation (column key : String)
deriving DecidableEq, Repr

/-- The spelling of an attribute. -/
def Attribute.render : Attribute → String
  | .id => "@id"
  | .unique => "@unique"
  | .defaultUuid => "@default(uuid())"
  | .defaultAutoincrement => "@default(autoincrement())"
  | .defaultNow => "@default(now())"
  | .updatedAt => "@updatedAt"
  | .relation column key => "@relation(fields: [" ++ column ++ "], references: [" ++ key ++ "])"

/-- A field of a block. -/
structure Field where
  name : String
  type : FieldType
  isOptional : Bool := false
  attributes : List Attribute := []
deriving DecidableEq, Repr

/-- The line of a field. -/
def Field.render (f : Field) : String :=
  "  " ++ f.name ++ " " ++ f.type.render ++ (if f.isOptional then "?" else "") ++
    String.join (f.attributes.map fun a => " " ++ a.render)

/-- A line of a block between its braces: a field, or a line of a doc comment. -/
inductive Entry where
  | doc (line : String)
  | field (f : Field)
deriving DecidableEq, Repr

/-- The line of an entry. -/
def Entry.render : Entry → String
  | .doc line => "  /// " ++ line
  | .field f => f.render

/-- The field of an entry that is one. -/
def Entry.field? : Entry → Option Field
  | .doc _ => none
  | .field f => some f

/-- The block that declares a model. -/
structure Block where
  /-- The lines of the model's doc comment. -/
  doc : List String
  name : String
  entries : List Entry
  /-- The foreign key columns that are indexed. -/
  indexes : List String
deriving DecidableEq, Repr

namespace Block

/-- The fields of a block, in order. -/
def fields (b : Block) : List Field := b.entries.filterMap Entry.field?

/-- The lines of the indexes, with an empty line above them if there are any. -/
def indexLines (indexes : List String) : List String :=
  if indexes.isEmpty then [] else "" :: indexes.map fun column => "  @@index([" ++ column ++ "])"

/-- The lines of a block. -/
def lines (b : Block) : List String :=
  b.doc.map ("/// " ++ ·) ++ ["model " ++ b.name ++ " \x7b"] ++ b.entries.map Entry.render ++
    indexLines b.indexes ++ ["\x7d"]

/-- The text of a block. -/
def render (b : Block) : String := Text.unlinesOf b.lines

end Block

/-! ## The block of a model -/

/-- The name of a key column without its last two letters, if these spell `id` in any letter case
and something stands before them. -/
def stripIdSuffix? (name : List Char) : Option (List Char) :=
  match name.reverse with
  | d :: i :: base =>
    if d.toLower = 'd' ∧ i.toLower = 'i' ∧ base ≠ [] then some base.reverse else none
  | _ => none

/-- The lines of a doc comment, or none when docs are left out. -/
def docLines (includeDocs : Bool) (doc : Option String) : List String :=
  if includeDocs then (doc.map Text.linesOf).getD [] else []

namespace Property

/-- Whether a text column identifies a record on its own: by its name, or because it is the id of
the model it stands in. -/
def isUniqueIn (p : Property) (owner : String) : Bool :=
  p.columnType == ⟨.string, false⟩ &&
    (["email", "phoneNumber", "externalId"].contains p.name ||
      p.name == Text.lowerFirstOf owner ++ "Id")

/-- What the key column of a type says besides the type. -/
def keyAttributes (t : ColumnType) : List Attribute :=
  match t.scalar with
  | .string => [.id, .defaultUuid]
  | .int => [.id, .defaultAutoincrement]
  | _ => [.id]

/-- The attributes of a plain column of the model `owner`. -/
def columnAttributes (p : Property) (owner : String) : List Attribute :=
  (if p.isId then keyAttributes p.columnType
    else if p.isUniqueIn owner then [.unique] else []) ++
  (if p.columnType == ⟨.dateTime, false⟩ then
    if p.name == "createdAt" then [.defaultNow]
    else if p.name == "updatedAt" then [.updatedAt] else []
  else [])

/-- A plain column of the model `owner`. A key and a list are never optional. -/
def column (p : Property) (owner : String) : Field where
  name := p.name
  type := .column p.columnType
  isOptional := p.isOptional && !p.isId && !p.columnType.isList
  attributes := p.columnAttributes owner

/-- The foreign key column of a back-reference and the name of its relation field before clashes
are looked at: a name that ends in `id` is the column, any other one the relation. -/
def keyNames (p : Property) : String × String :=
  match stripIdSuffix? p.name.toList with
  | some base => (p.name, String.ofList base)
  | none => (p.name ++ "Id", p.name)

/-- The name of the relation field of a back-reference among the declared names. -/
def relationName (p : Property) (declared : List String) : String :=
  let relation := p.keyNames.2
  if relation ≠ p.name ∧ declared.contains relation then relation ++ "Relation" else relation

/-- The fields of a back-reference to a model whose key is `key`: the foreign key column, unless a
property of that name is declared and renders itself, and the relation field. -/
def backReferenceFields (p : Property) (key : String × ColumnType) (declared : List String) :
    List Field :=
  let column := p.keyNames.1
  (if column = p.name ∨ ¬ declared.contains column then
    [{ name := column, type := .column key.2, isOptional := p.isOptional }]
  else []) ++
  [{ name := p.relationName declared, type := .model p.relation.target false,
     isOptional := p.isOptional, attributes := [.relation column key.1] }]

/-- The fields that a property of the model `owner` gives. -/
def fields (p : Property) (owner : String) (r : Registry) (declared : List String) : List Field :=
  match p.relation.kind with
  | .none => [p.column owner]
  | .oneToMany => [{ name := p.name, type := .model p.relation.target true }]
  | .oneToOne =>
    [{ name := p.name, type := .model p.relation.target false, isOptional := p.isOptional }]
  | .manyToOne =>
    let key := match r.get? p.relation.target with
      | some target => target.idField
      | none => ("id", ⟨.string, false⟩)
    p.backReferenceFields key declared

/-- The entries that a property gives: its doc lines and its fields. -/
def entries (p : Property) (owner : String) (r : Registry) (declared : List String)
    (includeDocs : Bool) : List Entry :=
  (docLines includeDocs p.doc).map .doc ++ (p.fields owner r declared).map .field

end Property

/-- The key field of a model that declares none. -/
def Field.generatedKey : Field :=
  { name := "id", type := .column ⟨.string, false⟩, attributes := [.id, .defaultUuid] }

/-- The block of a model of the registry. -/
def Model.block (m : Model) (r : Registry) (includeDocs : Bool) : Block where
  doc := docLines includeDocs m.doc
  name := m.name
  entries :=
    let declared := m.properties.map (·.name)
    (if m.hasId then [] else [.field .generatedKey]) ++
      m.properties.flatMap (·.entries m.name r declared includeDocs)
  indexes := (m.properties.filter (·.relation.kind == .manyToOne)).map (·.keyNames.1)

end ModelSchema
