/-!
# Models

A model is a named record type found in source text, with its properties in the order in which
they were declared. A property has a column type and may be related to another model.

## Main definitions

* `Scalar`, `ColumnType` — the column types of the schema language.
* `RelationKind`, `Relation` — how a property is related to another model.
* `Property`, `Model` — the declarations.
-/

namespace ModelSchema

/-- The scalar types of the schema language. -/
inductive Scalar where
  | string
  | int
  | bigInt
  | boolean
  | dateTime
  | json
  | bytes
deriving DecidableEq, Repr

/-- The name of a scalar type in a schema. -/
def Scalar.name : Scalar → String
  | .string => "String"
  | .int => "Int"
  | .bigInt => "BigInt"
  | .boolean => "Boolean"
  | .dateTime => "DateTime"
  | .json => "Json"
  | .bytes => "Bytes"

/-- All scalar types. -/
def Scalar.all : List Scalar := [.string, .int, .bigInt, .boolean, .dateTime, .json, .bytes]

/-- A scalar type or a list of it. -/
structure ColumnType where
  scalar : Scalar
  isList : Bool := false
deriving DecidableEq, Repr

/-- The spelling of a column type in a schema. -/
def ColumnType.render (t : ColumnType) : String :=
  if t.isList then t.scalar.name ++ "[]" else t.scalar.name

/-- How a property is related to another model. -/
inductive RelationKind where
  | none
  | oneToMany
  | oneToOne
  | manyToOne
deriving DecidableEq, Repr

/-- The relation of a property: its kind, the related model, and the field of that model which
points back. A property without a relation has no target and no such field. -/
structure Relation where
  kind : RelationKind := .none
  target : String := ""
  field : Option String := Option.none
deriving DecidableEq, Repr

namespace Relation

/-- No relation at all. -/
def absent : Relation := {}

/-- A relation to `target` that has not been paired with a field of it. -/
def unpaired (kind : RelationKind) (target : String) : Relation := { kind, target }

def isPresent (r : Relation) : Bool := r.kind != .none

end Relation

/-- A member of a model. -/
structure Property where
  name : String
  /-- The type as spelled in the source, on one line. -/
  rawType : String
  columnType : ColumnType
  isOptional : Bool := false
  isId : Bool := false
  relation : Relation := .absent
  doc : Option String := none
deriving DecidableEq, Repr

namespace Property

/-- A property as declared: one named `id` is the key. -/
def declared (name rawType : String) (columnType : ColumnType) : Property :=
  { name, rawType, columnType, isId := name == "id" }

/-- The key of a model that is declared as another name for a type. -/
def placeholderKey : Property := declared "id" "string" ⟨.string, false⟩

end Property

/-- A model: a name, its properties in order, and where it was declared. -/
structure Model where
  name : String
  properties : List Property := []
  sourceFile : String
  doc : Option String := none
deriving DecidableEq, Repr

namespace Model

/-- The first property of that name. -/
def property? (m : Model) (name : String) : Option Property :=
  m.properties.find? (·.name == name)

/-- Whether a property is marked as the key. -/
def hasId (m : Model) : Bool := m.properties.any (·.isId)

/-- Name and type of the key field; a model without one gets a string key named `id`. -/
def idField (m : Model) : String × ColumnType :=
  match m.properties.find? (·.isId) with
  | some p => (p.name, p.columnType)
  | none => ("id", ⟨.string, false⟩)

end Model

end ModelSchema
