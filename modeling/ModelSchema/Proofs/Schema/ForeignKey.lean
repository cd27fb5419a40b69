import ModelSchema.Proofs.Schema.Fields

/-!
# Foreign keys

A back-reference gives a relation field and, unless a property of that name is declared, the
column of its foreign key. The names of both are made from the name of the back-reference, so each
of them may be borne by another property.

## Main definitions

* `EndsInId` — what all names of foreign key columns have in common.
* `Model.HasPlainKey` — a model whose key is a column that other models can refer to.
* `Model.LeavesFree` — no relation field of a model takes a name.

## Main statements

* `Property.filter_name_fields` — the field of a property that bears the property's own name.
* `Property.filter_name_fields_eq_nil` — when a property gives no field of a column's name.
* `Model.HasPlainKey.keys_block` — a plain key is the one key field of its block.
* `Registry.resolve_foreignKey` — the foreign keys of a resolved registry.
-/

namespace ModelSchema

/-! ## Names of foreign key columns -/

/-- The name ends in `id`, in any letter case. -/
def EndsInId (name : List Char) : Prop :=
  ∃ base i d, name = base ++ [i, d] ∧ i.toLower = 'i' ∧ d.toLower = 'd'

theorem stripIdSuffix?_eq_some_iff {name base : List Char} :
    stripIdSuffix? name = some base ↔ base ≠ [] ∧
      ∃ i d, name = base ++ [i, d] ∧ i.toLower = 'i' ∧ d.toLower = 'd' := by
  constructor
  · intro h
    unfold stripIdSuffix? at h
    split at h
    · rename_i d i rest reversed
      split at h
      · rename_i hid
        obtain rfl := Option.some.inj h
        refine ⟨by simpa using hid.2.2, i, d, ?_, hid.2.1, hid.1⟩
        simpa using congrArg List.reverse reversed
      · cases h
    · cases h
  · rintro ⟨hne, i, d, rfl, hi, hd⟩
    simp [stripIdSuffix?, hi, hd, hne]

/-- A name made with this suffix ends in `n`. -/
theorem not_endsInId_append_relation (s : String) : ¬ EndsInId (s ++ "Relation").toList := by
  rintro ⟨base, i, d, h, -, hd⟩
  have last := congrArg List.getLast? h
  simp at last
  subst last
  exact absurd hd (by decide)

namespace Property

variable {p q : Property}

/-- The names of the column and of the relation field, by the shape of the property's name. -/
theorem keyNames_cases (p : Property) :
    (∃ base, stripIdSuffix? p.name.toList = some base ∧ p.keyNames = (p.name, String.ofList base))
      ∨ stripIdSuffix? p.name.toList = none ∧ p.keyNames = (p.name ++ "Id", p.name) := by
  unfold keyNames
  cases stripIdSuffix? p.name.toList with
  | none => exact .inr ⟨rfl, rfl⟩
  | some base => exact .inl ⟨base, rfl, rfl⟩

theorem endsInId_keyNames (p : Property) : EndsInId p.keyNames.1.toList := by
  obtain ⟨base, hbase, names⟩ | ⟨-, names⟩ := p.keyNames_cases
  · obtain ⟨-, i, d, hname, hid⟩ := stripIdSuffix?_eq_some_iff.1 hbase
    rw [names]
    exact ⟨base, i, d, hname, hid⟩
  · rw [names]
    exact ⟨p.name.toList, 'I', 'd', by simp, by decide, by decide⟩

/-- No foreign key column is named like a generated key. -/
theorem keyNames_ne_id (p : Property) : p.keyNames.1 ≠ "id" := by
  intro same
  obtain ⟨base, hbase, names⟩ | ⟨-, names⟩ := p.keyNames_cases <;> rw [names] at same
  · obtain ⟨hne, i, d, hname, -⟩ := stripIdSuffix?_eq_some_iff.1 hbase
    rw [show p.name = "id" from same] at hname
    have length : 2 = base.length + 2 := by simpa using congrArg List.length hname
    have pos := List.length_pos_iff.2 hne
    omega
  · have last := congrArg (fun s : String => s.toList.reverse) same
    simp at last

/-- A name and the name without its last two letters differ. -/
theorem ofList_ne_name {base : List Char} (h : stripIdSuffix? p.name.toList = some base) :
    String.ofList base ≠ p.name := by
  intro same
  obtain ⟨-, i, d, hname, -⟩ := stripIdSuffix?_eq_some_iff.1 h
  rw [← same, String.toList_ofList] at hname
  simpa using congrArg List.length hname

/-- The relation field of a back-reference does not bear the name of a column, unless that is the
name of the back-reference itself or what is left of it without `id`. -/
theorem relationName_ne {declared : List String} {column : String}
    (ends : EndsInId column.toList) (own : q.name ≠ column)
    (free : column ∈ declared ∨ stripIdSuffix? q.name.toList ≠ some column.toList) :
    q.relationName declared ≠ column := by
  intro same
  unfold relationName at same
  obtain ⟨base, hbase, names⟩ | ⟨-, names⟩ := q.keyNames_cases <;> rw [names] at same
  · simp only at same
    split at same
    · exact not_endsInId_append_relation _ (same ▸ ends)
    · rename_i unclear
      rcases free with free | free
      · exact unclear ⟨ofList_ne_name hbase, by simpa [same] using free⟩
      · rw [hbase, ← same, String.toList_ofList] at free
        exact free rfl
  · simp only [ne_eq, not_true_eq_false, false_and, if_false] at same
    exact own same

/-! ## Fields of one name -/

variable {owner : String} {r : Registry} {declared : List String}

/-- A back-reference gives its column, if it is not declared apart from it, and its relation
field. -/
theorem exists_fields_of_manyToOne (h : p.relation.kind = .manyToOne) (owner : String)
    (r : Registry) (declared : List String) :
    ∃ key : String × ColumnType, p.fields owner r declared = p.backReferenceFields key declared :=
  ⟨_, by simp only [fields, h]; rfl⟩

/-- A property gives exactly one field of its own name. -/
theorem filter_name_fields (ends : EndsInId p.name.toList) (owner : String) (r : Registry)
    (declared : List String) :
    ∃ f, (p.fields owner r declared).filter (·.name == p.name) = [f] := by
  cases kind : p.relation.kind with
  | none => exact ⟨p.column owner, by simp [fields_of_none kind, column]⟩
  | oneToMany =>
    obtain ⟨f, h, name, -⟩ := fields_of_forward owner r declared (.inl kind)
    exact ⟨f, by simp [h, name]⟩
  | oneToOne =>
    obtain ⟨f, h, name, -⟩ := fields_of_forward owner r declared (.inr kind)
    exact ⟨f, by simp [h, name]⟩
  | manyToOne =>
    obtain ⟨key, h⟩ := exists_fields_of_manyToOne kind owner r declared
    rw [h, backReferenceFields, List.filter_append]
    obtain ⟨base, hbase, names⟩ | ⟨-, names⟩ := p.keyNames_cases
    · have relation : p.relationName declared ≠ p.name := by
        simp only [relationName, names]
        split
        · exact fun same => not_endsInId_append_relation _ (same ▸ ends)
        · exact ofList_ne_name hbase
      exact ⟨⟨p.name, .column key.2, p.isOptional, []⟩, by simp [names, relation]⟩
    · have relation : p.relationName declared = p.name := by
        simp [relationName, names]
      refine ⟨⟨p.name, .model p.relation.target false, p.isOptional,
        [.relation p.keyNames.1 key.1]⟩, ?_⟩
      simp only [names]
      split <;> simp [relation]

/-- A property of another name gives no field of that name, unless its own column is meant and not
declared apart from it, or its relation field is left without `id`. -/
theorem filter_name_fields_eq_nil {column : String} (ends : EndsInId column.toList)
    (own : q.name ≠ column) (apart : q.keyNames.1 = column → column ∈ declared)
    (free : q.relation.kind = .manyToOne →
      column ∈ declared ∨ stripIdSuffix? q.name.toList ≠ some column.toList) :
    (q.fields owner r declared).filter (·.name == column) = [] := by
  cases kind : q.relation.kind with
  | none => simp [fields_of_none kind, Property.column, own]
  | oneToMany =>
    obtain ⟨f, h, name, -⟩ := fields_of_forward owner r declared (.inl kind)
    simp [h, name, own]
  | oneToOne =>
    obtain ⟨f, h, name, -⟩ := fields_of_forward owner r declared (.inr kind)
    simp [h, name, own]
  | manyToOne =>
    obtain ⟨key, h⟩ := exists_fields_of_manyToOne kind owner r declared
    have relation := relationName_ne ends own (free kind)
    rw [h, backReferenceFields, List.filter_append]
    by_cases same : q.keyNames.1 = column
    · simp [same, own.symm, apart same, relation]
    · split <;> simp [same, relation]

/-- A back-reference whose column is not declared apart from it gives the column, with the type of
the key that it refers to. -/
theorem filter_column_fields (h : p.relation.kind = .manyToOne) {target : Model}
    (ht : r.get? p.relation.target = some target)
    (apart : ∀ q ∈ declared, q = p.keyNames.1 → q = p.name) :
    (p.fields owner r declared).filter (·.name == p.keyNames.1) =
      [⟨p.keyNames.1, .column target.idField.2, p.isOptional, []⟩] := by
  have renders : p.keyNames.1 = p.name ∨ ¬ declared.contains p.keyNames.1 := by
    by_cases hd : p.keyNames.1 ∈ declared
    · exact .inl (apart _ hd rfl)
    · exact .inr (by simpa using hd)
  have relation : p.relationName declared ≠ p.keyNames.1 := by
    obtain ⟨base, hbase, names⟩ | ⟨-, names⟩ := p.keyNames_cases
    · rw [names]
      simp only [relationName, names]
      split
      · intro same
        have ends := p.endsInId_keyNames
        rw [names, ← same] at ends
        exact not_endsInId_append_relation _ ends
      · exact ofList_ne_name hbase
    · intro same
      have length := congrArg String.length same
      simp [relationName, names] at length
  rw [fields_of_manyToOne h ht, backReferenceFields, List.filter_append, if_pos renders]
  simp [relation]

end Property

/-! ## Foreign keys of a registry -/

namespace Model

/-- The model has no key of its own, or exactly one and that is a plain column and no list. -/
def HasPlainKey (m : Model) : Prop :=
  m.hasId = false ∨ ∃ key, m.properties.filter (·.isId) = [key] ∧ key.relation.kind = .none ∧
    key.columnType.isList = false

theorem find?_isId_of_filter {m : Model} {key : Property}
    (h : m.properties.filter (·.isId) = [key]) : m.properties.find? (·.isId) = some key := by
  rw [← List.head?_filter, h, List.head?_cons]

/-- A plain key is the only marked column. -/
theorem filter_isId_column_of_filter {m : Model} {key : Property}
    (h : m.properties.filter (·.isId) = [key]) (kind : key.relation.kind = .none) :
    m.properties.filter (fun p => p.isId ∧ p.relation.kind = .none) = [key] := by
  have kept := congrArg (List.filter fun p => decide (p.relation.kind = .none)) h
  rw [List.filter_filter] at kept
  simpa [kind, Bool.and_comm] using kept

/-- The block of a model with a plain key declares just this key, as other models refer to it. -/
theorem HasPlainKey.keys_block {m : Model} (h : m.HasPlainKey) (r : Registry)
    (includeDocs : Bool) :
    ∃ key, (m.block r includeDocs).keys = [key] ∧ key.name = m.idField.1 ∧
      key.type = .column m.idField.2 ∧ m.idField.2.isList = false := by
  rw [Model.keys_block]
  rcases h with h | ⟨key, h, kind, scalar⟩
  · have none : m.properties.find? (·.isId) = Option.none := by
      simpa [hasId] using h
    have unmarked : ∀ p ∈ m.properties, p.isId = false := by
      simpa [hasId] using h
    refine ⟨.generatedKey, ?_, ?_⟩
    · rw [List.filter_eq_nil_iff.2 (by grind), h]
      rfl
    · simp [idField, none, Field.generatedKey]
  · have found := find?_isId_of_filter h
    have marked : key ∈ m.properties ∧ key.isId = true := by
      have mem : key ∈ m.properties.filter (·.isId) := by simp [h]
      simpa using mem
    have hasId : m.hasId = true := List.any_eq_true.2 ⟨key, marked⟩
    refine ⟨key.column m.name, ?_, ?_⟩
    · rw [filter_isId_column_of_filter h kind, hasId]
      rfl
    · simp [idField, found, Property.column, scalar]

/-- The relation field of no back-reference takes the name: either it is declared, which relation
fields respect, or no back-reference bears it with `id` behind. -/
def LeavesFree (m : Model) (name : String) : Prop :=
  name ∈ m.properties.map (·.name) ∨ ∀ q ∈ m.properties, q.relation.kind = .manyToOne →
    stripIdSuffix? q.name.toList ≠ some name.toList

variable {m : Model} {p q : Property} {r : Registry}

/-- If only one property gives fields of some name, these are the fields of that name. -/
theorem fieldsNamed_block {name : String} (distinct : (m.properties.map (·.name)).Nodup)
    (hp : p ∈ m.properties) (generated : name ≠ "id") (r : Registry) (includeDocs : Bool)
    (others : ∀ q ∈ m.properties, q ≠ p →
      (q.fields m.name r (m.properties.map (·.name))).filter (·.name == name) = []) :
    (m.block r includeDocs).fieldsNamed name =
      (p.fields m.name r (m.properties.map (·.name))).filter (·.name == name) := by
  have key : (if m.hasId then [] else [Field.generatedKey]).filter (·.name == name) = [] := by
    split
    · rfl
    · simp [Field.generatedKey, generated.symm]
  rw [Block.fieldsNamed, fields_block, List.filter_append, key, List.nil_append,
    List.filter_flatMap]
  generalize m.properties.map (·.name) = declared at others ⊢
  have nodup := distinct.of_map
  obtain ⟨before, after, split⟩ := List.append_of_mem hp
  rw [split] at nodup others ⊢
  have apart : p ∉ before ∧ p ∉ after := by
    simp only [List.nodup_append, List.nodup_cons] at nodup
    grind
  have front : before.flatMap (fun q =>
      (q.fields m.name r declared).filter (·.name == name)) = [] :=
    List.flatMap_eq_nil_iff.2 fun q hq => others q (by simp [hq]) (by grind)
  have back : after.flatMap (fun q =>
      (q.fields m.name r declared).filter (·.name == name)) = [] :=
    List.flatMap_eq_nil_iff.2 fun q hq => others q (by simp [hq]) (by grind)
  rw [List.flatMap_append, List.flatMap_cons, front, back, List.nil_append, List.append_nil]

/-- A declared column of a back-reference has one field, which its declaration gives. -/
theorem fieldsNamed_of_declared (distinct : (m.properties.map (·.name)).Nodup)
    (hq : q ∈ m.properties) (name : q.name = p.keyNames.1) (r : Registry)
    (includeDocs : Bool) :
    ∃ f ∈ q.fields m.name r (m.properties.map (·.name)),
      (m.block r includeDocs).fieldsNamed p.keyNames.1 = [f] := by
  have ends := p.endsInId_keyNames
  have declared : p.keyNames.1 ∈ m.properties.map (·.name) := List.mem_map.2 ⟨q, hq, name⟩
  have others : ∀ s ∈ m.properties, s ≠ q →
      (s.fields m.name r (m.properties.map (·.name))).filter (·.name == p.keyNames.1) = [] := by
    intro s hs ne
    refine Property.filter_name_fields_eq_nil ends ?_ (fun _ => declared) fun _ => .inl declared
    intro same
    exact ne (List.inj_on_of_nodup_map distinct hs hq (same.trans name.symm))
  rw [fieldsNamed_block distinct hq p.keyNames_ne_id r includeDocs others]
  obtain ⟨f, h⟩ := Property.filter_name_fields (name ▸ ends) m.name r
    (m.properties.map (·.name))
  rw [name] at h
  refine ⟨f, ?_, h⟩
  have mem : f ∈ [f] := List.mem_singleton.2 rfl
  rw [← h] at mem
  exact List.mem_of_mem_filter mem

/-- A column that no other property declares has one field, with the type of the key. -/
theorem fieldsNamed_of_own (distinct : (m.properties.map (·.name)).Nodup)
    (hp : p ∈ m.properties) (kind : p.relation.kind = .manyToOne) {target : Model}
    (ht : r.get? p.relation.target = some target) (free : m.LeavesFree p.keyNames.1)
    (own : ∀ q ∈ m.properties, q.name = p.keyNames.1 → q = p) (includeDocs : Bool) :
    (m.block r includeDocs).fieldsNamed p.keyNames.1 =
      [⟨p.keyNames.1, .column target.idField.2, p.isOptional, []⟩] := by
  have others : ∀ s ∈ m.properties, s ≠ p →
      (s.fields m.name r (m.properties.map (·.name))).filter (·.name == p.keyNames.1) = [] := by
    intro s hs ne
    refine Property.filter_name_fields_eq_nil p.endsInId_keyNames (fun same => ne (own s hs same))
      ?_ fun back => free.imp_right fun clear => clear s hs back
    -- A shared column is declared by one of the two, or they bear the same name.
    intro shared
    obtain ⟨_, -, names⟩ | ⟨-, names⟩ := p.keyNames_cases
    · exact List.mem_map.2 ⟨p, hp, by rw [names]⟩
    · obtain ⟨_, -, names'⟩ | ⟨-, names'⟩ := s.keyNames_cases
      · exact absurd (own s hs (by rw [← shared, names'])) ne
      · rw [names, names'] at shared
        have same : s.name = p.name := (String.append_left_inj "Id").1 shared
        exact absurd (List.inj_on_of_nodup_map distinct hs hp same) ne
  rw [fieldsNamed_block distinct hp p.keyNames_ne_id r includeDocs others]
  refine Property.filter_column_fields kind ht ?_
  intro name hname same
  obtain ⟨q, hq, rfl⟩ := List.mem_map.1 hname
  rw [own q hq same]

end Model

/-- The block of a model with a back-reference names the column of the foreign key in the relation
field and in an index, next to the name of the key that the related model is known by. If no
relation field takes its name, the column has exactly one field: what a property declared under
that name gives, or else a column with the type of that key. A plain key is the one key field
of the related block, with this name and this type. -/
theorem Registry.resolve_foreignKey (r : Registry) (suffixes : List String) (includeDocs : Bool)
    (distinct : ∀ m ∈ r.models, (m.properties.map (·.name)).Nodup) :
    let resolved := (r.resolve suffixes).1
    ∀ b ∈ resolved.models, ∀ p ∈ b.properties, p.relation.kind = .manyToOne →
      let column := p.keyNames.1
      let owner := b.block resolved includeDocs
      ∃ a ∈ resolved.models, a.name = p.relation.target ∧
        (column ∈ owner.indexes ∧ ∃ f ∈ owner.fields,
          f.type = .model a.name false ∧ f.attributes = [.relation column a.idField.1]) ∧
        (b.LeavesFree column → ∃ f, owner.fieldsNamed column = [f] ∧
          (∀ q ∈ b.properties, q.name = column →
            f ∈ q.fields b.name resolved (b.properties.map (·.name))) ∧
          ((∀ q ∈ b.properties, q.name = column → q = p) →
            f = ⟨column, .column a.idField.2, p.isOptional, []⟩)) ∧
        (a.HasPlainKey → ∃ key, (a.block resolved includeDocs).keys = [key] ∧
          key.name = a.idField.1 ∧ key.type = .column a.idField.2 ∧
          a.idField.2.isList = false) := by
  intro resolved b hb p hp kind column owner
  obtain ⟨d, hd, -, names⟩ := exists_map_name_of_mem_resolve hb
  have nodup : (b.properties.map (·.name)).Nodup := names ▸ distinct d hd
  have known : p.relation.target ∈ resolved.names := by
    obtain rel | ⟨-, known⟩ := isKnown_of_mem_resolve hb hp
    · rw [rel] at kind
      cases kind
    · rwa [names_resolve]
  obtain ⟨a, ha, name⟩ := mem_names_iff.1 known
  have ht : resolved.get? p.relation.target = some a := name ▸ get?_of_mem ha
  refine ⟨a, ha, name, ⟨?_, ?_⟩, ?_, fun plain => plain.keys_block resolved includeDocs⟩
  · exact List.mem_map.2 ⟨p, List.mem_filter.2 ⟨hp, by simp [kind]⟩, rfl⟩
  · have fields : p.fields b.name resolved (b.properties.map (·.name)) =
        p.backReferenceFields a.idField (b.properties.map (·.name)) :=
      Property.fields_of_manyToOne kind ht
    rw [Model.fields_block]
    refine ⟨⟨p.relationName (b.properties.map (·.name)), .model p.relation.target false,
      p.isOptional, [.relation column a.idField.1]⟩, ?_, by rw [name], rfl⟩
    refine List.mem_append_right _ (List.mem_flatMap.2 ⟨p, hp, ?_⟩)
    rw [fields]
    exact List.mem_append_right _ (List.mem_singleton.2 rfl)
  · intro free
    by_cases own : ∀ q ∈ b.properties, q.name = column → q = p
    · have single := Model.fieldsNamed_of_own nodup hp kind ht free own includeDocs
      refine ⟨_, single, ?_, fun _ => rfl⟩
      intro q hq same
      obtain ⟨f, hf, h⟩ := Model.fieldsNamed_of_declared nodup hq same resolved includeDocs
      rw [single] at h
      rwa [List.singleton_inj.1 h]
    · push Not at own
      obtain ⟨q, hq, same, ne⟩ := own
      obtain ⟨f, hf, h⟩ := Model.fieldsNamed_of_declared nodup hq same resolved includeDocs
      refine ⟨f, h, ?_, fun own => absurd (own q hq same) ne⟩
      intro s hs again
      rwa [List.inj_on_of_nodup_map nodup hs hq (again.trans same.symm)]

/-- Models with back-references of every sort: to a model with a key of another type than the
declared column, to one whose key is a relation, and with relation fields that take the names of
columns. -/
def Registry.club : Registry :=
  let spelled (name spelling : String) : Property :=
    .declared name spelling (Spelling.columnTypeOf spelling)
  let model (name : String) (properties : List Property) : Model :=
    { name, properties, sourceFile := "club.ts" }
  Registry.empty.insertAll [
    model "Member" [spelled "id" "number", spelled "visits" "Visit[]", spelled "stays" "Stay[]"],
    model "MemberId" [spelled "stays" "Stay[]"],
    model "Visit" [spelled "member" "Member", spelled "memberId" "string"],
    model "Stay" [spelled "member" "Member", spelled "memberIdId" "MemberId"],
    model "Coach" [spelled "name" "string"],
    model "Team" [spelled "id" "Coach", spelled "players" "Player[]"],
    model "Player" [spelled "team" "Team"]]

/-- The key of `MemberId` is generated, and the column of `Stay` that refers to it has its type. -/
theorem Registry.resolve_foreignKey_club :
    (∀ m ∈ club.models, (m.properties.map (·.name)).Nodup) ∧
    let resolved := (club.resolve []).1
    ∃ b ∈ resolved.models, ∃ p ∈ b.properties,
      p.relation = ⟨.manyToOne, "MemberId", some "stays"⟩ ∧
      ∃ a ∈ resolved.models, a.name = "MemberId" ∧ ∃ f key,
        (b.block resolved false).fieldsNamed p.keyNames.1 = [f] ∧
        (a.block resolved false).keys = [key] ∧ f.type = key.type := by
  have distinct : ∀ m ∈ club.models, (m.properties.map (·.name)).Nodup := by decide +kernel
  refine ⟨distinct, ?_⟩
  have found : ∃ b ∈ (club.resolve []).1.models, ∃ p ∈ b.properties,
      p.relation = ⟨.manyToOne, "MemberId", some "stays"⟩ ∧
      p.keyNames.1 ∈ b.properties.map (·.name) ∧
      (∀ q ∈ b.properties, q.name = p.keyNames.1 → q = p) ∧
      ∀ a ∈ (club.resolve []).1.models, a.name = "MemberId" → a.hasId = false := by
    decide +kernel
  obtain ⟨b, hb, p, hp, rel, declared, own, generated⟩ := found
  obtain ⟨a, ha, name, -, column, key⟩ :=
    Registry.resolve_foreignKey club [] false distinct b hb p hp (by rw [rel])
  rw [rel] at name
  obtain ⟨f, single, -, type⟩ := column (.inl declared)
  obtain ⟨k, keys, -, keyType, -⟩ := key (.inl (generated a ha name))
  exact ⟨b, hb, p, hp, rel, a, ha, name, f, k, single, keys, by rw [type own, keyType]⟩

/-- A declared column keeps its own type, a relation field can take the name of a column, and a
key that is a relation has no key field. -/
theorem Registry.foreignKey_clashes :
    (∀ m ∈ club.models, (m.properties.map (·.name)).Nodup) ∧
    let resolved := (club.resolve []).1
    let columns (b : Model) (p : Property) : List FieldType :=
      ((b.block resolved false).fieldsNamed p.keyNames.1).map (·.type)
    let keys (a : Model) : List FieldType := (a.block resolved false).keys.map (·.type)
    (∃ b ∈ resolved.models, ∃ p ∈ b.properties, ∃ a ∈ resolved.models,
      p.relation = ⟨.manyToOne, a.name, some "visits"⟩ ∧
      columns b p = [.column ⟨.string, false⟩] ∧ keys a = [.column ⟨.int, false⟩]) ∧
    (∃ b ∈ resolved.models, ∃ p ∈ b.properties, ∃ a ∈ resolved.models,
      p.relation = ⟨.manyToOne, a.name, some "stays"⟩ ∧
      columns b p = [.column ⟨.int, false⟩, .model "MemberId" false]) ∧
    (∃ b ∈ resolved.models, ∃ p ∈ b.properties, ∃ a ∈ resolved.models,
      p.relation = ⟨.manyToOne, a.name, some "players"⟩ ∧
      columns b p = [.column ⟨.string, false⟩] ∧ keys a = []) := by
  decide +kernel

end ModelSchema
