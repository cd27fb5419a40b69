import ModelSchema.Proofs.Registry.Origin
import ModelSchema.Proofs.Schema.ForeignKey

/-!
# Keys of rendered models

A block gets a generated key if no property of its model is marked as one, whatever the marked
properties are. Only plain columns are printed as keys, so a marked property that resolving turns
into a relation leaves the block without a key.

## Main definitions

* `Block.HasOneKey` — exactly one field is a key, and it is a column that is no list.
* `Model.HasColumnKey` — what a model needs for such a block.
* `Model.KeepsKey` — a declared model whose key is not made a relation.

## Main statements

* `Model.hasOneKey_block_iff` — the blocks with one key, read off the model.
* `Registry.hasPlainKey_of_keepsKey` — declarations whose keys stay columns.
* `Registry.resolve_hasOneKey` — the blocks with one key in a resolved registry.
-/

namespace ModelSchema

/-- Exactly one field of the block is marked as the key, and it is a column that is no list. -/
def Block.HasOneKey (b : Block) : Prop :=
  ∃ s ∈ Scalar.all, b.keys.map (·.type) = [.column ⟨s, false⟩]

instance (b : Block) : Decidable b.HasOneKey :=
  inferInstanceAs (Decidable (∃ s ∈ Scalar.all, _))

theorem Block.hasOneKey_iff {b : Block} :
    b.HasOneKey ↔ ∃ key t, b.keys = [key] ∧ key.type = .column t ∧ t.isList = false := by
  simp only [HasOneKey, List.map_eq_singleton_iff]
  constructor
  · rintro ⟨s, -, key, single, type⟩
    exact ⟨key, _, single, type, rfl⟩
  · rintro ⟨key, ⟨s, _⟩, single, type, rfl⟩
    exact ⟨s, s.mem_all, key, single, type⟩

namespace Model

/-- No property is marked as the key, or exactly one marked property is no relation, and that is
no list. -/
def HasColumnKey (m : Model) : Prop :=
  m.hasId = false ∨ ∃ key,
    m.properties.filter (fun p => p.isId ∧ p.relation.kind = .none) = [key] ∧
      key.columnType.isList = false

/-- A block has one key if its model has none of its own, or one that is a column. -/
theorem hasOneKey_block_iff (m : Model) (r : Registry) (includeDocs : Bool) :
    (m.block r includeDocs).HasOneKey ↔ m.HasColumnKey := by
  rw [Block.hasOneKey_iff, keys_block]
  cases marked : m.hasId with
  | false =>
    have unmarked : ∀ p ∈ m.properties, p.isId = false := by
      simpa [hasId] using marked
    have generated : m.properties.filter (fun p => p.isId ∧ p.relation.kind = .none) = [] :=
      List.filter_eq_nil_iff.2 (by grind)
    rw [generated]
    exact ⟨fun _ => .inl marked, fun _ => ⟨.generatedKey, ⟨.string, false⟩, rfl, rfl, rfl⟩⟩
  | true =>
    simp only [if_pos, List.nil_append, List.map_eq_singleton_iff]
    constructor
    · rintro ⟨_, t, ⟨key, single, rfl⟩, type, scalar⟩
      obtain rfl := FieldType.column.inj type
      exact .inr ⟨key, single, scalar⟩
    · rintro (unmarked | ⟨key, single, scalar⟩)
      · rw [marked] at unmarked
        cases unmarked
      · exact ⟨key.column m.name, key.columnType, ⟨key, single, rfl⟩, rfl, scalar⟩

theorem HasPlainKey.hasColumnKey {m : Model} (h : m.HasPlainKey) : m.HasColumnKey := by
  obtain unmarked | ⟨key, single, kind, scalar⟩ := h
  · exact .inl unmarked
  · exact .inr ⟨key, filter_isId_column_of_filter single kind, scalar⟩

/-- The model declares no key, or exactly one: a column that is no list, whose type spells no
reference to a model of the registry and which is named after none that has an array of references
to this one. -/
def KeepsKey (r : Registry) (suffixes : List String) (m : Model) : Prop :=
  m.hasId = false ∨ ∃ key, m.properties.filter (·.isId) = [key] ∧
    key.columnType.isList = false ∧ (key.spelledRelation r.names suffixes).kind = .none ∧
    ∀ owner ∈ r.models, key.IsNamedAfter owner.name → ∀ q ∈ owner.properties,
      (q.spelledRelation r.names suffixes).kind = .oneToMany →
        (q.spelledRelation r.names suffixes).target ≠ m.name

end Model

namespace Registry

variable {r : Registry} {suffixes : List String} {d m : Model}

/-- Properties that differ in their relations only are marked alike. -/
theorem map_unrelated_filter_isId (ps : List Property) :
    (ps.filter (·.isId)).map (·.unrelated) = (ps.map (·.unrelated)).filter (·.isId) := by
  rw [List.filter_map]
  rfl

/-- A key stays a column if neither its type nor its name makes it a relation. -/
theorem hasPlainKey_of_keepsKey (hd : d ∈ r.models) (hm : m ∈ (r.resolve suffixes).1.models)
    (name : d.name = m.name) (keeps : d.KeepsKey r suffixes) : m.HasPlainKey := by
  obtain ⟨d', hd', name', same⟩ := exists_declared_of_mem_resolve hm
  obtain rfl := List.inj_on_of_nodup_map r.nodup hd hd' (name.trans name'.symm)
  have marked : (d.properties.filter (·.isId)).map (·.unrelated) =
      (m.properties.filter (·.isId)).map (·.unrelated) := by
    rw [map_unrelated_filter_isId, map_unrelated_filter_isId, same]
  obtain unmarked | ⟨declared, single, scalar, spelled, unnamed⟩ := keeps
  · have none : d.properties.filter (·.isId) = [] := by
      simpa [Model.hasId] using unmarked
    rw [none, List.map_nil, eq_comm, List.map_eq_nil_iff] at marked
    exact .inl (by simpa [Model.hasId] using marked)
  · rw [single, List.map_singleton, eq_comm, List.map_eq_singleton_iff] at marked
    obtain ⟨key, single', unrelated⟩ := marked
    have mem : key ∈ m.properties.filter (·.isId) := single' ▸ List.mem_singleton.2 rfl
    have hkey := List.mem_of_mem_filter mem
    injection unrelated with name raw type
    refine .inr ⟨key, single', ?_, type ▸ scalar⟩
    obtain ⟨kind, -⟩ | ⟨kind, namesake, -⟩ := hasOrigin_of_mem_resolve hm hkey
    · rw [kind, Property.spelledRelation_congr raw, spelled]
    · obtain ⟨owner, howner, target, q, hq, array, back⟩ := exists_array_of_manyToOne hm hkey kind
      rw [← target, Property.IsNamedAfter, name] at namesake
      exact absurd (back.trans name'.symm) (unnamed owner howner namesake q hq array)

/-- In a resolved registry, the block of a model has one key, a column that is no list, just when
no property is marked as the key, or exactly one marked property is no relation and that is no
list. That is so for a model that was declared without a key, or with a key that spells no
reference and has no array of references to point back at. -/
theorem resolve_hasOneKey (r : Registry) (suffixes : List String) (includeDocs : Bool) :
    let resolved := (r.resolve suffixes).1
    ∀ m ∈ resolved.models,
      ((m.block resolved includeDocs).HasOneKey ↔ m.HasColumnKey) ∧
      ∀ d ∈ r.models, d.name = m.name → d.KeepsKey r suffixes →
        (m.block resolved includeDocs).HasOneKey := by
  intro resolved m hm
  have one := m.hasOneKey_block_iff resolved includeDocs
  refine ⟨one, fun d hd name keeps => one.2 ?_⟩
  exact (hasPlainKey_of_keepsKey hd hm name keeps).hasColumnKey

/-- Models with keys of every sort: a column, none, a reference, a list, and a column that is
named after a model. -/
def staff : Registry :=
  let model (name : String) (properties : List Property) : Model :=
    { name, properties, sourceFile := "staff.ts" }
  empty.insertAll [
    model "Coach" [.declared "id" "number" ⟨.int, false⟩],
    model "Shift" [.declared "hours" "number" ⟨.int, false⟩],
    model "Team" [.declared "id" "Coach" ⟨.string, false⟩],
    model "Tag" [.declared "id" "string[]" ⟨.string, true⟩],
    model "Visit" [.declared "id" "string" ⟨.string, false⟩],
    model "Id" [.declared "visits" "Visit[]" ⟨.json, false⟩]]

/-- A key that is a number stays one. -/
theorem resolve_hasOneKey_coach :
    ∃ m ∈ (staff.resolve []).1.models, m.name = "Coach" ∧
      (m.block (staff.resolve []).1 false).HasOneKey := by
  have keeps : ∃ d ∈ staff.models, d.name = "Coach" ∧ d.KeepsKey staff [] :=
    ⟨_, List.mem_of_getElem? (i := 0) rfl, rfl, .inr ⟨_, rfl, rfl, by decide +kernel,
      by decide +kernel⟩⟩
  obtain ⟨d, hd, name, keeps⟩ := keeps
  have found : ∃ m ∈ (staff.resolve []).1.models, m.name = "Coach" := by decide +kernel
  obtain ⟨m, hm, coach⟩ := found
  exact ⟨m, hm, coach, (resolve_hasOneKey staff [] false m hm).2 d hd (name.trans coach.symm) keeps⟩

/-- A key that is a reference, or a column named after a model, gives no key field, and a list
gives one that is a list. -/
theorem resolve_lacks_key :
    (∀ m ∈ staff.models, (m.properties.map (·.name)).Nodup) ∧
    let resolved := (staff.resolve []).1
    let keys (m : Model) : List FieldType := (m.block resolved false).keys.map (·.type)
    (∃ m ∈ resolved.models, m.name = "Team" ∧ keys m = []) ∧
    (∃ m ∈ resolved.models, m.name = "Visit" ∧ keys m = []) ∧
    (∃ m ∈ resolved.models, m.name = "Tag" ∧ keys m = [.column ⟨.string, true⟩]) ∧
    ∀ m ∈ resolved.models, m.name ∈ ["Team", "Visit", "Tag"] →
      ¬ (m.block resolved false).HasOneKey := by
  decide +kernel

end Registry

end ModelSchema
