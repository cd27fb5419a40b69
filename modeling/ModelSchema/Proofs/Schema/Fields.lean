import ModelSchema.Proofs.Registry.Pairing
import ModelSchema.Schema.Document

/-!
# Fields of the blocks of a registry

What the block of a model declares, read off the model: a key if it has none of its own, and the
fields of each of its properties. Doc lines are no fields, so what a block declares does not
depend on them.

## Main definitions

* `Registry.blocks` — the blocks of a document.
* `Block.keys`, `Block.fieldsNamed` — the key fields of a block, and its fields of one name.

## Main statements

* `Model.fields_block` — the fields of a block.
* `Model.keys_block` — its key fields.
* `Registry.resolve_declares_types` — every type in the blocks of a resolved registry is a scalar
  or has a block.
-/

namespace ModelSchema

/-- The blocks of the document of a registry, in order. -/
def Registry.blocks (r : Registry) (includeDocs : Bool) : List Block :=
  r.models.map (·.block r includeDocs)

theorem Registry.mem_blocks {r : Registry} {includeDocs : Bool} {b : Block} :
    b ∈ r.blocks includeDocs ↔ ∃ m ∈ r.models, m.block r includeDocs = b := by
  simp [blocks]

/-- Behind the banner, a document consists of the blocks of its registry. -/
theorem Schema.draft_eq (r : Registry) (includeDocs : Bool) (preamble : String)
    (time : Timestamp) :
    draft r includeDocs preamble time =
      Text.trimEnd preamble.toList ++ "\n\n".toList ++ (banner time).toList ++ ['\n'] ++
        (r.blocks includeDocs).flatMap fun b => '\n' :: b.render.toList ++ ['\n'] := by
  simp [draft, Registry.blocks, List.flatMap_map]

namespace Block

/-- The fields of a block that are marked as the key. -/
def keys (b : Block) : List Field := b.fields.filter (·.attributes.contains .id)

/-- The fields of a block that bear a name. -/
def fieldsNamed (b : Block) (name : String) : List Field := b.fields.filter (·.name == name)

end Block

/-! ## Fields of a property -/

namespace Property

variable {p : Property} {f : Field} {owner : String} {r : Registry} {declared : List String}

/-- The doc lines of a property are no fields. -/
theorem filterMap_field?_entries (p : Property) (owner : String) (r : Registry)
    (declared : List String) (includeDocs : Bool) :
    (p.entries owner r declared includeDocs).filterMap Entry.field? =
      p.fields owner r declared := by
  unfold entries
  rw [List.filterMap_append, List.filterMap_map, List.filterMap_map]
  have none : Entry.field? ∘ Entry.doc = fun _ => Option.none := rfl
  have some : Entry.field? ∘ Entry.field = Option.some := rfl
  rw [none, some, List.filterMap_none, List.filterMap_some, List.nil_append]

/-- A property without a relation gives a plain column and nothing else. -/
theorem fields_of_none (h : p.relation.kind = .none) :
    p.fields owner r declared = [p.column owner] := by
  simp [fields, h]

/-- A property whose relation is held by the other side, or by none, gives one field of its own
name. -/
theorem fields_of_forward (owner : String) (r : Registry) (declared : List String)
    (h : p.relation.kind = .oneToMany ∨ p.relation.kind = .oneToOne) :
    ∃ f, p.fields owner r declared = [f] ∧ f.name = p.name ∧ f.attributes = [] := by
  rcases h with h | h
  · exact ⟨⟨p.name, .model p.relation.target true, false, []⟩, by simp [fields, h], rfl, rfl⟩
  · exact ⟨⟨p.name, .model p.relation.target false, p.isOptional, []⟩, by simp [fields, h], rfl,
      rfl⟩

/-- The key that a back-reference to a model of the registry refers to. -/
theorem fields_of_manyToOne (h : p.relation.kind = .manyToOne) {target : Model}
    (ht : r.get? p.relation.target = some target) :
    p.fields owner r declared = p.backReferenceFields target.idField declared := by
  simp [fields, h, ht]

/-- A field is a column, or it has the model that its property is related to for its type. -/
theorem type_of_mem_fields (h : f ∈ p.fields owner r declared) :
    (∃ t, f.type = .column t) ∨
      p.relation.kind ≠ .none ∧ ∃ isList, f.type = .model p.relation.target isList := by
  unfold fields at h
  split at h
  case h_1 =>
    obtain rfl := List.mem_singleton.1 h
    exact .inl ⟨_, rfl⟩
  case h_2 kind =>
    obtain rfl := List.mem_singleton.1 h
    exact .inr ⟨by simp [kind], _, rfl⟩
  case h_3 kind =>
    obtain rfl := List.mem_singleton.1 h
    exact .inr ⟨by simp [kind], _, rfl⟩
  case h_4 kind =>
    rcases List.mem_append.1 h with h | h
    · split at h
      · obtain rfl := List.mem_singleton.1 h
        exact .inl ⟨_, rfl⟩
      · cases h
    · obtain rfl := List.mem_singleton.1 h
      exact .inr ⟨by simp [kind], _, rfl⟩

/-- Of the fields of a property only the plain column of a key is marked as one. -/
theorem filter_id_fields (p : Property) (owner : String) (r : Registry)
    (declared : List String) :
    (p.fields owner r declared).filter (·.attributes.contains .id) =
      if p.isId ∧ p.relation.kind = .none then [p.column owner] else [] := by
  cases kind : p.relation.kind with
  | none =>
    rw [fields_of_none kind]
    have marked : .id ∈ (p.column owner).attributes ↔ p.isId = true := by
      simp only [column, columnAttributes, keyAttributes]
      grind
    by_cases hid : p.isId = true <;> simp [marked, hid]
  | oneToMany =>
    obtain ⟨f, h, -, attributes⟩ := fields_of_forward owner r declared (.inl kind)
    simp [h, attributes]
  | oneToOne =>
    obtain ⟨f, h, -, attributes⟩ := fields_of_forward owner r declared (.inr kind)
    simp [h, attributes]
  | manyToOne =>
    simp only [fields, kind, backReferenceFields, List.filter_append]
    grind

end Property

/-! ## Fields of a block -/

namespace Model

/-- A block declares a key if its model has none, and the fields of each property. -/
theorem fields_block (m : Model) (r : Registry) (includeDocs : Bool) :
    (m.block r includeDocs).fields = (if m.hasId then [] else [.generatedKey]) ++
      m.properties.flatMap (·.fields m.name r (m.properties.map (·.name))) := by
  simp only [Block.fields, block, List.filterMap_append, List.filterMap_flatMap,
    Property.filterMap_field?_entries]
  congr 1
  split <;> rfl

/-- The key fields of a block: the generated one, or the plain columns among the marked
properties. -/
theorem keys_block (m : Model) (r : Registry) (includeDocs : Bool) :
    (m.block r includeDocs).keys = (if m.hasId then [] else [.generatedKey]) ++
      (m.properties.filter fun p => p.isId ∧ p.relation.kind = .none).map (·.column m.name) := by
  rw [Block.keys, fields_block, List.filter_append, List.filter_flatMap]
  congr 1
  · split <;> rfl
  · simp only [Property.filter_id_fields]
    induction m.properties with
    | nil => rfl
    | cons p ps ih =>
      by_cases h : p.isId = true ∧ p.relation.kind = .none <;> simp [h, ih]

end Model

/-! ## Types -/

/-- The spelling of a column type is that of its scalar, alone or as a list. -/
theorem ColumnType.render_eq (t : ColumnType) :
    t.render = t.scalar.name ∨ t.render = t.scalar.name ++ "[]" := by
  unfold render
  split
  · exact .inr rfl
  · exact .inl rfl

theorem Scalar.mem_all (s : Scalar) : s ∈ Scalar.all := by
  cases s <;> decide

/-- The line with which a block declares its name. -/
theorem Block.header_mem_lines (b : Block) : "model " ++ b.name ++ " \x7b" ∈ b.lines := by
  simp [lines]

/-- However models were declared, each field of each block of their resolved registry has for its
type a scalar or a model that a block of the same document declares, alone or as a list. -/
theorem Registry.resolve_declares_types (models : List Model) (suffixes : List String)
    (includeDocs : Bool) :
    let r := ((Registry.empty.insertAll models).resolve suffixes).1
    ∀ b ∈ r.blocks includeDocs, ∀ f ∈ b.fields,
      (∃ s ∈ Scalar.all, f.type.render = s.name ∨ f.type.render = s.name ++ "[]") ∨
      ∃ target ∈ r.models,
        (f.type.render = target.name ∨ f.type.render = target.name ++ "[]") ∧
        ∃ declaring ∈ r.blocks includeDocs,
          "model " ++ target.name ++ " \x7b" ∈ declaring.lines := by
  intro r b hb f hf
  obtain ⟨m, hm, rfl⟩ := Registry.mem_blocks.1 hb
  have column : ∀ t : ColumnType, f.type = .column t →
      ∃ s ∈ Scalar.all, f.type.render = s.name ∨ f.type.render = s.name ++ "[]" := by
    intro t ht
    rw [ht]
    exact ⟨t.scalar, t.scalar.mem_all, t.render_eq⟩
  rw [Model.fields_block, List.mem_append, List.mem_flatMap] at hf
  rcases hf with hf | ⟨p, hp, hf⟩
  · split at hf
    · cases hf
    · obtain rfl := List.mem_singleton.1 hf
      exact .inl (column _ rfl)
  · rcases Property.type_of_mem_fields hf with ⟨t, ht⟩ | ⟨kind, isList, ht⟩
    · exact .inl (column t ht)
    · obtain rel | ⟨-, known⟩ := Registry.isKnown_of_mem_resolve hm hp
      · exact absurd (by rw [rel]; rfl) kind
      · rw [← Registry.names_resolve _ suffixes] at known
        obtain ⟨target, htarget, name⟩ := Registry.mem_names_iff.1 known
        refine .inr ⟨target, htarget, ?_, _, Registry.mem_blocks.2 ⟨target, htarget, rfl⟩,
          Block.header_mem_lines _⟩
        rw [ht, ← name]
        cases isList
        · exact .inl rfl
        · exact .inr rfl

end ModelSchema
