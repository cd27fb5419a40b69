import ModelSchema.Proofs.Registry.Origin
import ModelSchema.Proofs.Schema.ForeignKey
import ModelSchema.Proofs.Text.LowerCase

/-!
# Names of rendered back-references

A property points back at a model that it is named after, alone or with `id` behind. The block of
its model tells the two cases apart by the end of the property's name only: a name that ends in
`id` is that of the column, any other one that of the relation field. So a property with the name
of a model that itself ends in `id` is rendered as the column.

## Main definitions

* `HasIdSuffix` — names that are taken for those of columns.
* `Property.foreignKey` — a column and a relation field of given names.
* `Block.ShowsKey` — a block with such a column and such a relation field.

## Main statements

* `hasIdSuffix_iff_lower` — the end of a name can be told from its lower-case form.
* `Property.keyNames_of_hasIdSuffix`, `Property.keyNames_of_not_hasIdSuffix` — the names that a
  back-reference gives.
* `Registry.resolve_keyNames` — the names in the blocks of a resolved registry.
-/

namespace ModelSchema

/-! ## Names that end in `id` -/

/-- The name ends in `id`, in any letter case, and something stands before that. -/
def HasIdSuffix (name : String) : Prop :=
  ∃ base i d, name.toList = base ++ [i, d] ∧ base ≠ [] ∧ i.toLower = 'i' ∧ d.toLower = 'd'

theorem isSome_stripIdSuffix?_iff_hasIdSuffix {name : String} :
    (stripIdSuffix? name.toList).isSome ↔ HasIdSuffix name := by
  rw [Option.isSome_iff_exists]
  simp only [stripIdSuffix?_eq_some_iff, HasIdSuffix]
  constructor
  · rintro ⟨base, ne, i, d, hname, hi, hd⟩
    exact ⟨base, i, d, hname, ne, hi, hd⟩
  · rintro ⟨base, i, d, hname, ne, hi, hd⟩
    exact ⟨base, ne, i, d, hname, hi, hd⟩

instance (name : String) : Decidable (HasIdSuffix name) :=
  decidable_of_iff _ isSome_stripIdSuffix?_iff_hasIdSuffix

/-- Whether a name ends so can be told from its lower-case form. -/
theorem hasIdSuffix_iff_lower {name : String} :
    HasIdSuffix name ↔ ∃ form, Text.lower name.toList = form ++ ['i', 'd'] ∧ form ≠ [] := by
  constructor
  · rintro ⟨base, i, d, hname, ne, hi, hd⟩
    obtain ⟨form, hform, nil⟩ := Text.exists_lower_append_id base hi hd
    exact ⟨form, hname ▸ hform, mt nil.1 ne⟩
  · rintro ⟨form, hform, ne⟩
    obtain ⟨base, i, d, hname, hi, hd, nil⟩ := Text.exists_of_lower_eq_append_id hform
    exact ⟨base, i, d, hname, mt nil.2 ne, hi, hd⟩

theorem hasIdSuffix_congr {name name' : String} (h : Text.lowerOf name = Text.lowerOf name') :
    HasIdSuffix name ↔ HasIdSuffix name' := by
  rw [hasIdSuffix_iff_lower, hasIdSuffix_iff_lower, String.ofList_injective h]

namespace Property

variable {p : Property} {model : String}

/-- The name without its last two characters. -/
def nameWithoutId (p : Property) : String := String.ofList p.name.toList.dropLast.dropLast

theorem keyNames_of_hasIdSuffix (h : HasIdSuffix p.name) :
    p.keyNames = (p.name, p.nameWithoutId) := by
  obtain ⟨base, i, d, hname, ne, hi, hd⟩ := h
  have strip : stripIdSuffix? p.name.toList = some base :=
    stripIdSuffix?_eq_some_iff.2 ⟨ne, i, d, hname, hi, hd⟩
  have short : p.name.toList.dropLast.dropLast = base := by
    rw [hname, List.append_cons, List.dropLast_concat, List.dropLast_concat]
  rw [keyNames, strip, nameWithoutId, short]

theorem keyNames_of_not_hasIdSuffix (h : ¬ HasIdSuffix p.name) :
    p.keyNames = (p.name ++ "Id", p.name) := by
  rw [← isSome_stripIdSuffix?_iff_hasIdSuffix, Option.not_isSome_iff_eq_none] at h
  rw [keyNames, h]

/-- With `id` behind the name of a model, a property is named for its column, unless the model has
the empty name. -/
theorem hasIdSuffix_of_lowerOf_eq_append
    (h : Text.lowerOf p.name = Text.lowerOf model ++ "id") :
    HasIdSuffix p.name ↔ model ≠ "" := by
  have form : Text.lower p.name.toList = Text.lower model.toList ++ ['i', 'd'] := by
    have lists := congrArg String.toList h
    simpa [Text.lowerOf] using lists
  have nil : Text.lower model.toList = [] ↔ model = "" := by
    rw [Text.lower_eq_nil_iff, String.toList_eq_nil_iff]
  rw [hasIdSuffix_iff_lower, form, ne_eq, ← nil]
  constructor
  · rintro ⟨form, same, ne⟩
    exact (List.append_left_inj _).1 same ▸ ne
  · exact fun ne => ⟨_, rfl, ne⟩

/-! ## What a back-reference shows -/

/-- The column and the relation field of a back-reference under given names. -/
def foreignKey (p : Property) (column relation : String) (key : String × ColumnType) :
    List Field :=
  [{ name := column, type := .column key.2, isOptional := p.isOptional },
   { name := relation, type := .model p.relation.target false, isOptional := p.isOptional,
     attributes := [.relation column key.1] }]

/-- A back-reference whose names no other property bears gives a field of each. -/
theorem fields_eq_foreignKey {owner : String} {r : Registry} {declared : List String}
    (kind : p.relation.kind = .manyToOne) {target : Model}
    (ht : r.get? p.relation.target = some target)
    (column : p.keyNames.1 = p.name ∨ p.keyNames.1 ∉ declared)
    (relation : p.keyNames.2 = p.name ∨ p.keyNames.2 ∉ declared) :
    p.fields owner r declared = p.foreignKey p.keyNames.1 p.keyNames.2 target.idField := by
  have clear : p.relationName declared = p.keyNames.2 := by
    simp only [relationName]
    grind
  have shown : p.keyNames.1 = p.name ∨ ¬ declared.contains p.keyNames.1 := by simpa using column
  rw [fields_of_manyToOne kind ht, backReferenceFields, if_pos shown, clear]
  rfl

end Property

/-- The block has the lines of a foreign key in a row, and that of the index of its column. -/
structure Block.ShowsKey (b : Block) (p : Property) (column relation : String)
    (key : String × ColumnType) : Prop where
  fields : (p.foreignKey column relation key).map Field.render <:+: b.lines
  index : "  @@index([" ++ column ++ "])" ∈ b.lines

namespace Model

variable {m : Model} {p : Property} {r : Registry}

/-- The lines of the fields of a property stand in a row in the block of its model. -/
theorem lines_fields_isInfix (hp : p ∈ m.properties) (r : Registry) (includeDocs : Bool) :
    (p.fields m.name r (m.properties.map (·.name))).map Field.render <:+:
      (m.block r includeDocs).lines := by
  have own : (p.fields m.name r (m.properties.map (·.name))).map Entry.field <:+:
      p.entries m.name r (m.properties.map (·.name)) includeDocs :=
    (List.suffix_append _ _).isInfix
  have among : p.entries m.name r (m.properties.map (·.name)) includeDocs <:+:
      m.properties.flatMap (·.entries m.name r (m.properties.map (·.name)) includeDocs) :=
    List.infix_of_mem_flatten (List.mem_map_of_mem hp)
  have entries : (p.fields m.name r (m.properties.map (·.name))).map Entry.field <:+:
      (m.block r includeDocs).entries :=
    (own.trans among).trans (List.suffix_append _ _).isInfix
  have rendered := entries.map Entry.render
  rw [List.map_map] at rendered
  refine rendered.trans ?_
  rw [Block.lines, List.append_assoc]
  exact List.infix_append _ _ _

theorem showsKey_block (hp : p ∈ m.properties) (kind : p.relation.kind = .manyToOne)
    {target : Model} (ht : r.get? p.relation.target = some target)
    (column : p.keyNames.1 = p.name ∨ p.keyNames.1 ∉ m.properties.map (·.name))
    (relation : p.keyNames.2 = p.name ∨ p.keyNames.2 ∉ m.properties.map (·.name))
    (includeDocs : Bool) :
    (m.block r includeDocs).ShowsKey p p.keyNames.1 p.keyNames.2 target.idField where
  fields := by
    rw [← Property.fields_eq_foreignKey kind ht column relation]
    exact lines_fields_isInfix hp r includeDocs
  index := by
    have indexed : p.keyNames.1 ∈ (m.block r includeDocs).indexes :=
      List.mem_map_of_mem (List.mem_filter.2 ⟨hp, by simp [kind]⟩)
    have line : "  @@index([" ++ p.keyNames.1 ++ "])" ∈
        Block.indexLines (m.block r includeDocs).indexes := by
      rw [Block.indexLines, if_neg (by simpa using List.ne_nil_of_mem indexed)]
      exact List.mem_cons_of_mem _ (List.mem_map_of_mem indexed)
    exact List.mem_append_left _ (List.mem_append_right _ line)

end Model

namespace Registry

/-- In a resolved registry, a back-reference whose further names no property bears is named after
its model in one of two ways. With the name of the model alone it gives a relation field of its own
name and a column with `Id` behind, unless the name of the model ends in `id` itself; then it gives
the column, and the relation field has the name without the last two letters. With `id` behind the
name of the model it gives the column too, unless the model has the empty name. -/
theorem resolve_keyNames (r : Registry) (suffixes : List String) (includeDocs : Bool) :
    let resolved := (r.resolve suffixes).1
    ∀ m ∈ resolved.models, ∀ p ∈ m.properties, p.relation.kind = .manyToOne →
      p.name ++ "Id" ∉ m.properties.map (·.name) →
      p.nameWithoutId ∉ m.properties.map (·.name) →
      ∃ a ∈ resolved.models, a.name = p.relation.target ∧ p.IsNamedAfter a.name ∧
        let block := m.block resolved includeDocs
        (Text.lowerOf p.name = Text.lowerOf a.name →
          (¬ HasIdSuffix a.name → block.ShowsKey p (p.name ++ "Id") p.name a.idField) ∧
          (HasIdSuffix a.name → block.ShowsKey p p.name p.nameWithoutId a.idField)) ∧
        (Text.lowerOf p.name = Text.lowerOf a.name ++ "id" →
          (a.name ≠ "" → block.ShowsKey p p.name p.nameWithoutId a.idField) ∧
          (a.name = "" → block.ShowsKey p (p.name ++ "Id") p.name a.idField)) := by
  intro resolved m hm p hp kind column relation
  obtain ⟨a, ha, name, ht⟩ := exists_target_of_mem_resolve hm hp (by simp [kind])
  have namesake : p.IsNamedAfter a.name :=
    name ▸ (hasOrigin_of_mem_resolve hm hp).isNamedAfter kind
  have forColumn : HasIdSuffix p.name →
      (m.block resolved includeDocs).ShowsKey p p.name p.nameWithoutId a.idField := by
    intro ends
    have names := Property.keyNames_of_hasIdSuffix ends
    have shows := Model.showsKey_block hp kind ht (.inl (by rw [names]))
      (.inr (by rwa [names])) includeDocs
    rwa [names] at shows
  have forRelation : ¬ HasIdSuffix p.name →
      (m.block resolved includeDocs).ShowsKey p (p.name ++ "Id") p.name a.idField := by
    intro ends
    have names := Property.keyNames_of_not_hasIdSuffix ends
    have shows := Model.showsKey_block hp kind ht (.inr (by rwa [names]))
      (.inl (by rw [names])) includeDocs
    rwa [names] at shows
  refine ⟨a, ha, name, namesake, fun same => ?_, fun same => ?_⟩
  · rw [← hasIdSuffix_congr same]
    exact ⟨forRelation, forColumn⟩
  · rw [← Property.hasIdSuffix_of_lowerOf_eq_append same]
    refine ⟨forColumn, fun empty => forRelation ?_⟩
    rw [Property.hasIdSuffix_of_lowerOf_eq_append same]
    exact fun ne => ne empty

/-- A model whose name ends in `id`, and one with a property that bears this name. -/
def tiling : Registry :=
  empty.insertAll [
    { name := "Grid", sourceFile := "tiling.ts",
      properties := [.declared "cells" "Cell[]" ⟨.json, false⟩] },
    { name := "Cell", sourceFile := "tiling.ts",
      properties := [.declared "grid" "Grid" ⟨.string, false⟩] }]

/-- The property named `grid` is rendered as a column, with a relation field named `gr`. -/
theorem resolve_keyNames_grid :
    ∃ m ∈ (tiling.resolve []).1.models, ∃ p ∈ m.properties, p.name = "grid" ∧
      p.relation.kind = .manyToOne ∧ p.name ++ "Id" ∉ m.properties.map (·.name) ∧
      p.nameWithoutId ∉ m.properties.map (·.name) ∧
      ∃ key, (m.block (tiling.resolve []).1 false).ShowsKey p "grid" "gr" key := by
  have found : ∃ m ∈ (tiling.resolve []).1.models, ∃ p ∈ m.properties, p.name = "grid" ∧
      p.relation.kind = .manyToOne ∧ p.name ++ "Id" ∉ m.properties.map (·.name) ∧
      p.nameWithoutId ∉ m.properties.map (·.name) ∧
      p.relation.target = "Grid" ∧ p.nameWithoutId = "gr" := by
    decide +kernel
  obtain ⟨m, hm, p, hp, name, kind, column, relation, target, short⟩ := found
  obtain ⟨a, -, model, -, alone, -⟩ :=
    resolve_keyNames tiling [] false m hm p hp kind column relation
  have same : Text.lowerOf p.name = Text.lowerOf a.name := by
    rw [name, model, target]
    decide +kernel
  have ends : HasIdSuffix a.name := by
    rw [model, target]
    decide
  have shows := (alone same).2 ends
  rw [name, short] at shows
  exact ⟨m, hm, p, hp, name, kind, column, relation, _, shows⟩

/-- Although no further name is declared, the property that bears the name of its model gives no
relation field of its own name, and no column with `Id` behind. -/
theorem resolve_misnames_relation :
    let resolved := (tiling.resolve []).1
    ∃ m ∈ resolved.models, ∃ p ∈ m.properties,
      p.relation = ⟨.manyToOne, "Grid", some "cells"⟩ ∧
      Text.lowerOf p.name = Text.lowerOf "Grid" ∧
      (∀ name ∈ [p.name ++ "Id", p.nameWithoutId, p.nameWithoutId ++ "Relation"],
        name ∉ m.properties.map (·.name)) ∧
      (∀ f ∈ (m.block resolved false).fields,
        f.type = .model "Grid" false → f.name = "gr" ∧ f.name ≠ p.name) ∧
      ∀ f ∈ (m.block resolved false).fields, f.name ≠ p.name ++ "Id" := by
  decide +kernel

end Registry

end ModelSchema
