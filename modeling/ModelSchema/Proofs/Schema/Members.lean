import Mathlib.Data.List.Pairwise
import Mathlib.Data.List.Perm.Basic
import ModelSchema.Proofs.Schema.ForeignKey

/-!
# Members of rendered blocks

A block declares the names of its model's properties, a generated key, and one generated name for
each back-reference: its relation field if it bears the name of its column, its column otherwise.
A generated name is chosen with a view to the declared ones only, so two generated names may be
the same, and so may a column be indexed twice.

## Main definitions

* `Property.NamesColumn`, `Property.NamesRelation` — what a back-reference is named for.
* `Property.addedName?` — the name that a back-reference adds to its own.
* `Model.NamesApart` — no two fields of the block of a model share a name.
* `Model.ColumnsApart` — no two back-references of a model share a column.

## Main statements

* `Model.perm_names_block` — the names that a block declares.
* `Model.nodup_names_block_iff`, `Model.nodup_indexes_block_iff` — the blocks that declare no name
  and no index twice, read off the model.
* `Registry.resolve_nodup_members` — these blocks in a resolved registry.
-/

namespace ModelSchema

/-- Columns are indexed by lines that differ as they do. -/
theorem Block.nodup_indexLines_iff {columns : List String} :
    (indexLines columns).Nodup ↔ columns.Nodup := by
  cases columns with
  | nil => simp [indexLines]
  | cons column columns =>
    have apart : "" ∉ (column :: columns).map fun c => "  @@index([" ++ c ++ "])" := by
      simp
    have injective : Function.Injective fun c : String => "  @@index([" ++ c ++ "])" := by
      intro c c' same
      exact (String.append_right_inj _).1 ((String.append_left_inj _).1 same)
    rw [indexLines, if_neg (by simp), List.nodup_cons, List.nodup_map_iff injective]
    exact and_iff_right apart

namespace Property

variable {p q : Property} {declared : List String} {name : String}

/-- The back-reference bears the name of its column. -/
def NamesColumn (p : Property) : Prop :=
  p.relation.kind = .manyToOne ∧ p.keyNames.1 = p.name

/-- The back-reference bears the name of its relation field. -/
def NamesRelation (p : Property) : Prop :=
  p.relation.kind = .manyToOne ∧ p.keyNames.1 ≠ p.name

/-- The name that a back-reference among the declared names adds to its own: that of its relation
field or of its column, if a property of that name is not declared. -/
def addedName? (p : Property) (declared : List String) : Option String :=
  if p.relation.kind ≠ .manyToOne then none
  else if p.keyNames.1 = p.name then some (p.relationName declared)
  else if declared.contains p.keyNames.1 then none
  else some p.keyNames.1

theorem addedName?_eq_some_iff : p.addedName? declared = some name ↔
    p.NamesColumn ∧ p.relationName declared = name ∨
      p.NamesRelation ∧ p.keyNames.1 ∉ declared ∧ p.keyNames.1 = name := by
  unfold addedName? NamesColumn NamesRelation
  grind

theorem keyNames_of_ne_name (h : p.keyNames.1 ≠ p.name) :
    p.keyNames = (p.name ++ "Id", p.name) := by
  obtain ⟨_, -, names⟩ | ⟨-, names⟩ := p.keyNames_cases
  · exact absurd (by rw [names]) h
  · exact names

/-- The names of the fields of a property are its own and the one that it adds. -/
theorem perm_names_fields (p : Property) (owner : String) (r : Registry)
    (declared : List String) :
    ((p.fields owner r declared).map (·.name)).Perm
      (p.name :: (p.addedName? declared).toList) := by
  cases kind : p.relation.kind with
  | none => simp [fields_of_none kind, addedName?, kind, column]
  | oneToMany =>
    obtain ⟨f, h, name, -⟩ := fields_of_forward owner r declared (.inl kind)
    simp [h, name, addedName?, kind]
  | oneToOne =>
    obtain ⟨f, h, name, -⟩ := fields_of_forward owner r declared (.inr kind)
    simp [h, name, addedName?, kind]
  | manyToOne =>
    obtain ⟨key, h⟩ := exists_fields_of_manyToOne kind owner r declared
    by_cases own : p.keyNames.1 = p.name
    · simp [h, backReferenceFields, addedName?, kind, own]
    · have relation : p.relationName declared = p.name := by
        simp [relationName, keyNames_of_ne_name own]
      by_cases known : p.keyNames.1 ∈ declared
      · simp [h, backReferenceFields, addedName?, kind, own, known, relation]
      · simpa [h, backReferenceFields, addedName?, kind, own, known, relation] using
          List.Perm.swap ..

/-- The names of the fields of properties are their own and the ones that they add. -/
theorem perm_names_flatMap_fields (ps : List Property) (owner : String) (r : Registry)
    (declared : List String) :
    ((ps.flatMap (·.fields owner r declared)).map (·.name)).Perm
      (ps.map (·.name) ++ ps.filterMap (·.addedName? declared)) := by
  rw [List.map_flatMap, List.map_eq_flatMap, List.filterMap_eq_flatMap_toList]
  refine .trans ?_ (List.flatMap_append_perm ..).symm
  exact .flatMap_left _ fun p _ => p.perm_names_fields ..

end Property

namespace Model

variable {m : Model} {p q : Property}

/-- The name of the relation field of a back-reference among the properties of the model. -/
def relationName (m : Model) (p : Property) : String :=
  p.relationName (m.properties.map (·.name))

/-- The names that the back-references of the model add to those of its properties. -/
def addedNames (m : Model) : List String :=
  m.properties.filterMap (·.addedName? (m.properties.map (·.name)))

/-- No two fields of the block share a name: the names that back-references add are different from
the generated key, from the declared names, and from each other. Only names of relation fields can
fail to be, for a column ends in `id` and stands aside for a declared one. -/
structure NamesApart (m : Model) : Prop where
  key : m.hasId = false → "id" ∉ m.properties.map (·.name) ∧
    ∀ p ∈ m.properties, p.NamesColumn → m.relationName p ≠ "id"
  declared : ∀ p ∈ m.properties, p.NamesColumn → m.relationName p ∉ m.properties.map (·.name)
  relations : ∀ p ∈ m.properties, ∀ q ∈ m.properties, p.NamesColumn → q.NamesColumn →
    m.relationName p = m.relationName q → p = q
  columns : ∀ p ∈ m.properties, ∀ q ∈ m.properties, p.NamesColumn → q.NamesRelation →
    m.relationName p ≠ q.keyNames.1

/-- No two back-references of the model share a column: none bears the name of the column of
another one. -/
def ColumnsApart (m : Model) : Prop :=
  ∀ p ∈ m.properties, ∀ q ∈ m.properties, p.NamesColumn → q.NamesRelation →
    p.name ≠ q.keyNames.1

/-- A block declares its generated key, the names of the properties, and the names that
back-references add to these. -/
theorem perm_names_block (m : Model) (r : Registry) (includeDocs : Bool) :
    ((m.block r includeDocs).fields.map (·.name)).Perm
      ((if m.hasId then [] else ["id"]) ++ (m.properties.map (·.name) ++ m.addedNames)) := by
  have key : (if m.hasId then [] else [Field.generatedKey]).map (·.name) =
      if m.hasId then [] else ["id"] := by
    split <;> rfl
  rw [fields_block, List.map_append, key]
  exact .append_left _ (Property.perm_names_flatMap_fields ..)

/-! ## Names that back-references add -/

theorem mem_addedNames_iff {name : String} : name ∈ m.addedNames ↔ ∃ p ∈ m.properties,
    p.NamesColumn ∧ m.relationName p = name ∨
      p.NamesRelation ∧ p.keyNames.1 ∉ m.properties.map (·.name) ∧ p.keyNames.1 = name := by
  simp only [addedNames, List.mem_filterMap, Property.addedName?_eq_some_iff, relationName]

theorem relationName_mem_addedNames (hp : p ∈ m.properties) (column : p.NamesColumn) :
    m.relationName p ∈ m.addedNames :=
  mem_addedNames_iff.2 ⟨p, hp, .inl ⟨column, rfl⟩⟩

/-- Of the added names only those of relation fields can be that of a generated key. -/
theorem id_notMem_addedNames_iff : "id" ∉ m.addedNames ↔
    ∀ p ∈ m.properties, p.NamesColumn → m.relationName p ≠ "id" := by
  constructor
  · intro free p hp column same
    exact free (same ▸ relationName_mem_addedNames hp column)
  · intro free mem
    obtain ⟨p, hp, ⟨column, same⟩ | ⟨-, -, same⟩⟩ := mem_addedNames_iff.1 mem
    · exact free p hp column same
    · exact p.keyNames_ne_id same

/-- Of the added names only those of relation fields can be declared. -/
theorem disjoint_addedNames_iff : (m.properties.map (·.name)).Disjoint m.addedNames ↔
    ∀ p ∈ m.properties, p.NamesColumn → m.relationName p ∉ m.properties.map (·.name) := by
  constructor
  · intro disjoint p hp column mem
    exact disjoint mem (relationName_mem_addedNames hp column)
  · intro apart name mem added
    obtain ⟨p, hp, ⟨column, rfl⟩ | ⟨-, free, rfl⟩⟩ := mem_addedNames_iff.1 added
    · exact apart p hp column mem
    · exact free mem

/-- Back-references that are named for their relation fields have different columns. -/
theorem eq_of_keyNames_eq (distinct : (m.properties.map (·.name)).Nodup)
    (hp : p ∈ m.properties) (hq : q ∈ m.properties) (relation : p.NamesRelation)
    (relation' : q.NamesRelation) (same : p.keyNames.1 = q.keyNames.1) : p = q := by
  rw [Property.keyNames_of_ne_name relation.2, Property.keyNames_of_ne_name relation'.2] at same
  exact List.inj_on_of_nodup_map distinct hp hq ((String.append_left_inj "Id").1 same)

/-- Names are added once each if no two properties add the same one. -/
theorem nodup_addedNames_iff_injective (distinct : (m.properties.map (·.name)).Nodup) :
    m.addedNames.Nodup ↔ ∀ p ∈ m.properties, ∀ q ∈ m.properties, ∀ name,
      p.addedName? (m.properties.map (·.name)) = some name →
        q.addedName? (m.properties.map (·.name)) = some name → p = q := by
  have nodup := distinct.of_map
  rw [addedNames, List.Nodup, List.pairwise_filterMap]
  generalize m.properties.map (·.name) = declared
  constructor
  · intro pairwise p hp q hq name hpn hqn
    have symmetric : Std.Symm fun p q : Property => ∀ a, p.addedName? declared = some a →
        ∀ b, q.addedName? declared = some b → a ≠ b :=
      ⟨fun _ _ h a ha b hb => (h b hb a ha).symm⟩
    by_contra ne
    exact pairwise.forall hp hq ne name hpn name hqn rfl
  · intro injective
    refine nodup.pairwise_of_forall_ne fun p hp q hq ne a ha b hb same => ?_
    exact ne (injective p hp q hq b (same ▸ ha) hb)

/-- Two added names can be the same only if one of them is that of a relation field. -/
theorem nodup_addedNames_iff (distinct : (m.properties.map (·.name)).Nodup)
    (apart : ∀ p ∈ m.properties, p.NamesColumn →
      m.relationName p ∉ m.properties.map (·.name)) :
    m.addedNames.Nodup ↔
      (∀ p ∈ m.properties, ∀ q ∈ m.properties, p.NamesColumn → q.NamesColumn →
        m.relationName p = m.relationName q → p = q) ∧
      ∀ p ∈ m.properties, ∀ q ∈ m.properties, p.NamesColumn → q.NamesRelation →
        m.relationName p ≠ q.keyNames.1 := by
  rw [nodup_addedNames_iff_injective distinct]
  simp only [Property.addedName?_eq_some_iff]
  constructor
  · intro injective
    refine ⟨fun p hp q hq column column' same => ?_, fun p hp q hq column names same => ?_⟩
    · exact injective p hp q hq _ (.inl ⟨column, rfl⟩) (.inl ⟨column', same.symm⟩)
    · have free : q.keyNames.1 ∉ m.properties.map (·.name) := same ▸ apart p hp column
      have eq := injective p hp q hq _ (.inl ⟨column, rfl⟩) (.inr ⟨names, free, same.symm⟩)
      exact names.2 (eq ▸ column.2)
  · rintro ⟨relations, columns⟩ p hp q hq name (⟨column, rfl⟩ | ⟨names, -, rfl⟩)
      (⟨column', same⟩ | ⟨names', -, same⟩)
    · exact relations p hp q hq column column' same.symm
    · exact absurd same.symm (columns p hp q hq column names')
    · exact absurd same (columns q hq p hp column' names)
    · exact eq_of_keyNames_eq distinct hp hq names names' same.symm

/-! ## Names and indexes of a block -/

/-- The fields of a block have different names just when its model keeps them apart. -/
theorem nodup_names_block_iff (distinct : (m.properties.map (·.name)).Nodup) (r : Registry)
    (includeDocs : Bool) :
    ((m.block r includeDocs).fields.map (·.name)).Nodup ↔ m.NamesApart := by
  have key : (if m.hasId then [] else ["id"]).Disjoint
      (m.properties.map (·.name) ++ m.addedNames) ↔
        (m.hasId = false → "id" ∉ m.properties.map (·.name) ∧ "id" ∉ m.addedNames) := by
    cases m.hasId <;> simp [List.disjoint_left]
  have single : (if m.hasId then [] else ["id"]).Nodup := by
    split <;> simp
  rw [(m.perm_names_block r includeDocs).nodup_iff, List.nodup_append', List.nodup_append', key,
    id_notMem_addedNames_iff, disjoint_addedNames_iff]
  constructor
  · rintro ⟨-, ⟨-, added, declared⟩, generated⟩
    obtain ⟨relations, columns⟩ := (nodup_addedNames_iff distinct declared).1 added
    exact ⟨generated, declared, relations, columns⟩
  · intro h
    have added := (nodup_addedNames_iff distinct h.declared).2 ⟨h.relations, h.columns⟩
    exact ⟨single, ⟨distinct, added, h.declared⟩, h.key⟩

/-- The columns of a block are indexed once each just when no two back-references share one. -/
theorem nodup_indexes_block_iff (distinct : (m.properties.map (·.name)).Nodup) (r : Registry)
    (includeDocs : Bool) : (m.block r includeDocs).indexes.Nodup ↔ m.ColumnsApart := by
  have nodup : (m.properties.filter (·.relation.kind == .manyToOne)).Nodup :=
    distinct.of_map.filter _
  change ((m.properties.filter (·.relation.kind == .manyToOne)).map (·.keyNames.1)).Nodup ↔ _
  rw [List.nodup_map_iff_inj_on nodup]
  simp only [List.mem_filter, beq_iff_eq]
  constructor
  · intro injective p hp q hq column relation same
    have eq := injective p ⟨hp, column.1⟩ q ⟨hq, relation.1⟩ (column.2.trans same)
    exact relation.2 (eq ▸ column.2)
  · rintro apart p ⟨hp, kind⟩ q ⟨hq, kind'⟩ same
    by_cases own : p.keyNames.1 = p.name <;> by_cases own' : q.keyNames.1 = q.name
    · exact List.inj_on_of_nodup_map distinct hp hq (own.symm.trans (same.trans own'))
    · exact absurd (own.symm.trans same) (apart p hp q hq ⟨kind, own⟩ ⟨kind', own'⟩)
    · exact absurd (own'.symm.trans same.symm) (apart q hq p hp ⟨kind', own'⟩ ⟨kind, own⟩)
    · exact eq_of_keyNames_eq distinct hp hq ⟨kind, own⟩ ⟨kind', own'⟩ same

end Model

namespace Registry

/-- In a resolved registry, the block of a model declares no name twice just when the model keeps
the names apart that its back-references add, and indexes no column twice just when none of its
back-references bears the name of the column of another one. -/
theorem resolve_nodup_members (r : Registry) (suffixes : List String) (includeDocs : Bool)
    (distinct : ∀ m ∈ r.models, (m.properties.map (·.name)).Nodup) :
    let resolved := (r.resolve suffixes).1
    ∀ m ∈ resolved.models,
      (((m.block resolved includeDocs).fields.map (·.name)).Nodup ↔ m.NamesApart) ∧
      ((Block.indexLines (m.block resolved includeDocs).indexes).Nodup ↔ m.ColumnsApart) := by
  intro resolved m hm
  obtain ⟨d, hd, -, names⟩ := exists_map_name_of_mem_resolve hm
  have nodup : (m.properties.map (·.name)).Nodup := names ▸ distinct d hd
  refine ⟨Model.nodup_names_block_iff nodup resolved includeDocs, ?_⟩
  exact Block.nodup_indexLines_iff.trans (Model.nodup_indexes_block_iff nodup resolved includeDocs)

/-- Models with back-references whose columns and relation fields meet names of every sort. -/
def crossing : Registry :=
  let text (name : String) : Property := .declared name "string" ⟨.string, false⟩
  let array (name target : String) : Property := .declared name (target ++ "[]") ⟨.json, false⟩
  let model (name : String) (properties : List Property) : Model :=
    { name, properties, sourceFile := "crossing.ts" }
  empty.insertAll [
    model "Member" [array "gifts" "Gift", array "visits" "Visit", array "pastVisits" "Visit",
      array "trips" "Trip", array "pastTrips" "Trip", array "stays" "Stay", array "notes" "Note"],
    model "MemberId" [array "stays" "Stay"],
    model "Id" [array "tags" "Tag"],
    model "Gift" [text "memberId"],
    model "Visit" [.declared "member" "Member" ⟨.string, false⟩, text "memberId"],
    model "Trip" [text "memberId", text "memberID"],
    model "Stay" [text "member", text "memberIdId"],
    model "Note" [text "memberId", text "member", text "memberRelation"],
    model "Tag" [text "idId"]]

/-- One back-reference whose relation field is named like nothing else gives no trouble. -/
theorem resolve_nodup_members_gift :
    (∀ m ∈ crossing.models, (m.properties.map (·.name)).Nodup) ∧
    ∃ m ∈ (crossing.resolve []).1.models, m.name = "Gift" ∧ m.NamesApart ∧ m.ColumnsApart := by
  have distinct : ∀ m ∈ crossing.models, (m.properties.map (·.name)).Nodup := by decide +kernel
  have found : ∃ m ∈ (crossing.resolve []).1.models, m.name = "Gift" ∧
      ((m.block (crossing.resolve []).1 false).fields.map (·.name)).Nodup ∧
      (Block.indexLines (m.block (crossing.resolve []).1 false).indexes).Nodup := by
    decide +kernel
  obtain ⟨m, hm, name, names, indexes⟩ := found
  obtain ⟨namesApart, columnsApart⟩ := resolve_nodup_members crossing [] false distinct m hm
  exact ⟨distinct, m, hm, name, namesApart.1 names, columnsApart.1 indexes⟩

/-- Two relation fields can have the same name; a relation field can have that of a column, of a
declared property or of the generated key; and a column can be indexed twice. -/
theorem resolve_repeats_members :
    (∀ m ∈ crossing.models, (m.properties.map (·.name)).Nodup) ∧
    let resolved := (crossing.resolve []).1
    let names (m : Model) : List String := (m.block resolved false).fields.map (·.name)
    (∃ m ∈ resolved.models, m.name = "Trip" ∧ (names m).count "member" = 2) ∧
    (∃ m ∈ resolved.models, m.name = "Stay" ∧ (names m).count "memberId" = 2) ∧
    (∃ m ∈ resolved.models, m.name = "Note" ∧ (names m).count "memberRelation" = 2) ∧
    (∃ m ∈ resolved.models, m.name = "Tag" ∧ (names m).count "id" = 2) ∧
    (∃ m ∈ resolved.models, m.name = "Visit" ∧
      (Block.indexLines (m.block resolved false).indexes).count "  @@index([memberId])" = 2) ∧
    (¬ ∀ m ∈ resolved.models, (names m).Nodup) ∧
    ¬ ∀ m ∈ resolved.models, (Block.indexLines (m.block resolved false).indexes).Nodup := by
  decide +kernel

end Registry

end ModelSchema
