import ModelSchema.Proofs.Schema.Document
import ModelSchema.Proofs.Schema.ForeignKey

/-!
# Lines of a block

The lines of a block stay single lines in the text of the document if no name of a model or of a
property holds a line feed: all other text in them is fixed or comes from the lines of a doc
comment.

## Main definitions

* `Registry.HasLineNames` — no name in a registry holds a line feed.
* `Registry.HasKnownTargets` — relations lead to models of the registry.
* `Block.fronts` — what the lines of blocks start with.

## Main statements

* `Model.isLine_of_mem_lines` — the lines of a block are single lines.
* `Block.not_isPrefix_of_mem_lines` — what no line of a block starts with.
* `Schema.exists_line_of_mem_modelText` — the lines behind the one with the time come from blocks.
-/

namespace ModelSchema

open Text

/-- No name of a model or of a property holds a line feed. -/
def Registry.HasLineNames (r : Registry) : Prop :=
  ∀ m ∈ r.models, IsLine m.name.toList ∧ ∀ p ∈ m.properties, IsLine p.name.toList

/-- Every relation leads to a model of the registry. -/
def Registry.HasKnownTargets (r : Registry) : Prop :=
  ∀ m ∈ r.models, ∀ p ∈ m.properties, p.relation.kind ≠ .none → p.relation.target ∈ r.names

theorem Registry.hasKnownTargets_resolve (r : Registry) (suffixes : List String) :
    (r.resolve suffixes).1.HasKnownTargets := by
  intro m hm p hp kind
  obtain ⟨a, ha, name, -⟩ := exists_target_of_mem_resolve hm hp kind
  exact mem_names_iff.2 ⟨a, ha, name⟩

/-! ## Fields -/

namespace Property

variable {p : Property} {r : Registry} {f : Field}

theorem isLine_keyNames (h : IsLine p.name.toList) :
    IsLine p.keyNames.1.toList ∧ IsLine p.keyNames.2.toList := by
  obtain ⟨base, hbase, names⟩ | ⟨-, names⟩ := p.keyNames_cases <;> rw [names]
  · obtain ⟨-, i, d, hname, -⟩ := stripIdSuffix?_eq_some_iff.1 hbase
    refine ⟨h, ?_⟩
    rw [hname] at h
    rw [String.toList_ofList]
    exact fun hm => h (List.mem_append_left _ hm)
  · unfold IsLine at h ⊢
    simp [h]

theorem isLine_relationName (h : IsLine p.name.toList) (declared : List String) :
    IsLine (p.relationName declared).toList := by
  have line := (isLine_keyNames h).2
  unfold relationName
  unfold IsLine at line ⊢
  simp only
  split <;> simp [line]

theorem isLine_columnType (t : ColumnType) : IsLine t.render.toList := by
  cases t with
  | mk scalar isList => cases scalar <;> cases isList <;> decide

end Property

theorem Attribute.isLine_relation {column key : String} (hc : IsLine column.toList)
    (hk : IsLine key.toList) : IsLine (Attribute.relation column key).render.toList := by
  change IsLine ("@relation(fields: [" ++ column ++ "], references: [" ++ key ++ "])").toList
  have opening : IsLine "@relation(fields: [".toList := by decide +kernel
  have middle : IsLine "], references: [".toList := by decide +kernel
  simp only [String.toList_append]
  exact (((opening.append hc).append middle).append hk).append (by decide)

/-- The line of a field without line feeds in its parts. -/
theorem Field.isLine_render {f : Field} (name : IsLine f.name.toList)
    (type : IsLine f.type.render.toList)
    (attributes : ∀ a ∈ f.attributes, IsLine a.render.toList) : IsLine f.render.toList := by
  unfold IsLine at name type attributes ⊢
  cases h : f.isOptional <;> simp only [render, h] <;> simpa [name, type] using attributes

namespace Property

variable {p : Property} {r : Registry} {f : Field} {owner : String}

theorem isLine_column (h : IsLine p.name.toList) (owner : String) :
    IsLine (p.column owner).render.toList := by
  refine Field.isLine_render h (isLine_columnType _) ?_
  intro a ha
  simp only [column, columnAttributes, keyAttributes] at ha
  have fixed : ∀ a ∈ [Attribute.id, .unique, .defaultUuid, .defaultAutoincrement, .defaultNow,
      .updatedAt], IsLine a.render.toList := by decide
  exact fixed a (by grind)

/-- The fields of a property are single lines if the names are that they are made of. -/
theorem isLine_of_mem_fields (name : IsLine p.name.toList)
    (target : p.relation.kind ≠ .none → IsLine p.relation.target.toList)
    (keys : ∀ m ∈ r.models, IsLine m.idField.1.toList) {declared : List String}
    (h : f ∈ p.fields owner r declared) : IsLine f.render.toList := by
  have related : p.relation.kind ≠ .none → ∀ isList,
      IsLine (FieldType.model p.relation.target isList).render.toList := by
    intro kind isList
    have line := target kind
    unfold IsLine at line ⊢
    cases isList <;> simp [FieldType.render, line]
  cases kind : p.relation.kind with
  | none =>
    rw [fields_of_none kind, List.mem_singleton] at h
    rw [h]
    exact isLine_column name owner
  | oneToMany =>
    simp only [fields, kind, List.mem_singleton] at h
    rw [h]
    exact Field.isLine_render name (related (by simp [kind]) true) (by simp)
  | oneToOne =>
    simp only [fields, kind, List.mem_singleton] at h
    rw [h]
    exact Field.isLine_render name (related (by simp [kind]) false) (by simp)
  | manyToOne =>
    obtain ⟨key, hkey, line⟩ : ∃ key : String × ColumnType,
        p.fields owner r declared = p.backReferenceFields key declared ∧ IsLine key.1.toList := by
      cases ht : r.get? p.relation.target with
      | none => exact ⟨("id", ⟨.string, false⟩), by simp [fields, kind, ht], by decide⟩
      | some m =>
        exact ⟨m.idField, fields_of_manyToOne kind ht, keys m (Registry.get?_eq_some_iff.1 ht).1⟩
    have column := (isLine_keyNames name).1
    rw [hkey, backReferenceFields, List.mem_append] at h
    rcases h with h | h
    · split at h
      · rw [List.mem_singleton] at h
        rw [h]
        exact Field.isLine_render column (isLine_columnType _) (by simp)
      · cases h
    · rw [List.mem_singleton] at h
      rw [h]
      apply Field.isLine_render
      · exact isLine_relationName name declared
      · exact related (by simp [kind]) false
      · intro a ha
        rw [List.mem_singleton] at ha
        rw [ha]
        exact Attribute.isLine_relation column line

end Property

/-! ## Blocks -/

theorem isLine_of_mem_docLines {includeDocs : Bool} {doc : Option String} {l : String}
    (h : l ∈ docLines includeDocs doc) : IsLine l.toList := by
  unfold docLines at h
  split at h
  · cases doc with
    | none => cases h
    | some doc =>
      obtain ⟨line, hline, rfl⟩ := List.mem_map.1 (show l ∈ linesOf doc from h)
      rw [String.toList_ofList]
      exact isLine_of_mem_lines hline
  · cases h

/-- The doc lines in a block are lines of the doc comments of properties. -/
theorem isLine_of_mem_doc {m : Model} {r : Registry} {includeDocs : Bool} {line : String}
    (h : .doc line ∈ (m.block r includeDocs).entries) : IsLine line.toList := by
  simp only [Model.block, List.mem_append, List.mem_flatMap] at h
  rcases h with h | ⟨p, hp, h⟩
  · split at h <;> simp at h
  · simp only [Property.entries, List.mem_append, List.mem_map] at h
    rcases h with ⟨l, hl, same⟩ | ⟨f, -, same⟩
    · injection same with same
      exact same ▸ isLine_of_mem_docLines hl
    · cases same

theorem Registry.HasLineNames.isLine_idField {r : Registry} (names : r.HasLineNames) {m : Model}
    (hm : m ∈ r.models) : IsLine m.idField.1.toList := by
  unfold Model.idField
  split
  · rename_i p hp
    exact (names m hm).2 p (List.mem_of_find?_eq_some hp)
  · decide

/-- Without line feeds in names the lines of a block are single lines. -/
theorem Model.isLine_of_mem_lines {r : Registry} (names : r.HasLineNames)
    (known : r.HasKnownTargets) {m : Model} (hm : m ∈ r.models) {includeDocs : Bool} {l : String}
    (h : l ∈ (m.block r includeDocs).lines) : IsLine l.toList := by
  have field : ∀ f ∈ (m.block r includeDocs).fields, IsLine f.render.toList := by
    intro f hf
    rw [fields_block, List.mem_append, List.mem_flatMap] at hf
    rcases hf with hf | ⟨p, hp, hf⟩
    · split at hf
      · cases hf
      · rw [List.mem_singleton.1 hf]
        decide +kernel
    · refine Property.isLine_of_mem_fields ((names m hm).2 p hp) ?_
        (fun m => names.isLine_idField) hf
      intro kind
      obtain ⟨target, htarget, name⟩ := Registry.mem_names_iff.1 (known m hm p hp kind)
      exact name ▸ (names target htarget).1
  simp only [Block.lines, List.mem_append, List.mem_map, List.mem_singleton] at h
  rcases h with (((⟨line, hline, rfl⟩ | rfl) | ⟨entry, hentry, rfl⟩) | h) | rfl
  · rw [String.toList_append]
    exact IsLine.append (by decide) (isLine_of_mem_docLines hline)
  · rw [String.toList_append, String.toList_append]
    exact (IsLine.append (by decide) (names m hm).1).append (by decide)
  · cases entry with
    | doc line =>
      have doc : IsLine line.toList := isLine_of_mem_doc hentry
      change IsLine ("  /// " ++ line).toList
      rw [String.toList_append]
      exact IsLine.append (by decide) doc
    | field f => exact field f (List.mem_filterMap.2 ⟨.field f, hentry, rfl⟩)
  · unfold Block.indexLines at h
    split at h
    · cases h
    · rcases List.mem_cons.1 h with rfl | h
      · decide
      · obtain ⟨column, hcolumn, rfl⟩ := List.mem_map.1 h
        obtain ⟨p, hp, rfl⟩ := List.mem_map.1 hcolumn
        have line := (Property.isLine_keyNames ((names m hm).2 p (List.mem_filter.1 hp).1)).1
        simp only [String.toList_append]
        exact (IsLine.append (by decide) line).append (by decide)
  · decide

/-- The same holds of all blocks of a resolved registry, whose relations lead to known models. -/
theorem Registry.HasLineNames.isLine_of_mem_blocks {r : Registry} {suffixes : List String}
    (names : (r.resolve suffixes).1.HasLineNames) (includeDocs : Bool) :
    ∀ b ∈ (r.resolve suffixes).1.blocks includeDocs, ∀ l ∈ b.lines, IsLine l.toList := by
  intro b hb l hl
  obtain ⟨m, hm, rfl⟩ := Registry.mem_blocks.1 hb
  exact Model.isLine_of_mem_lines names (r.hasKnownTargets_resolve suffixes) hm hl

/-! ## Fronts of lines -/

/-- What the lines of blocks start with, if they are not empty. -/
def Block.fronts : List String := ["/// ", "model ", "  ", "\x7d"]

theorem Block.exists_front_of_mem_lines {b : Block} {l : String} (h : l ∈ b.lines) :
    l = "" ∨ ∃ front ∈ fronts, front.toList <+: l.toList := by
  have starts : ∀ {front rest : String}, front ∈ fronts →
      ∃ front' ∈ fronts, front'.toList <+: (front ++ rest).toList := by
    intro front rest known
    exact ⟨front, known, by simp⟩
  simp only [lines, List.mem_append, List.mem_map, List.mem_singleton] at h
  rcases h with (((⟨line, -, rfl⟩ | rfl) | ⟨entry, -, rfl⟩) | h) | rfl
  · exact .inr (starts (by simp [fronts]))
  · rw [String.append_assoc]
    exact .inr (starts (by simp [fronts]))
  · cases entry with
    | doc line =>
      have spaces : "  /// " = "  " ++ "/// " := by decide
      rw [Entry.render, spaces, String.append_assoc]
      exact .inr (starts (by simp [fronts]))
    | field f =>
      simp only [Entry.render, Field.render, String.append_assoc]
      exact .inr (starts (by simp [fronts]))
  · unfold indexLines at h
    split at h
    · cases h
    · rcases List.mem_cons.1 h with rfl | h
      · exact .inl rfl
      · obtain ⟨column, -, rfl⟩ := List.mem_map.1 h
        have spaces : "  @@index([" = "  " ++ "@@index([" := by decide
        rw [spaces, String.append_assoc, String.append_assoc]
        exact .inr (starts (by simp [fronts]))
  · exact .inr ⟨_, by simp [fronts], List.prefix_rfl⟩

/-- A word that starts otherwise is in front of no line. -/
theorem Block.not_isPrefix_of_mem_lines {b : Block} {l : String} {word : List Char}
    (hne : word ≠ []) (apart : ∀ front ∈ fronts, ¬ front.toList <+: word ∧ ¬ word <+: front.toList)
    (h : l ∈ b.lines) : ¬ word <+: l.toList := by
  intro start
  obtain rfl | ⟨front, known, start'⟩ := exists_front_of_mem_lines h
  · exact hne (List.prefix_nil.1 start)
  · rcases List.prefix_or_prefix_of_prefix start' start with inside | inside
    · exact (apart front known).1 inside
    · exact (apart front known).2 inside

/-- The lines of the text of a block are those of its lines. -/
theorem Block.cut_render (b : Block) :
    cut (· == '\n') b.render.toList = b.lines.flatMap fun l => cut (· == '\n') l.toList := by
  have render : b.render.toList = unlines (b.lines.map String.toList) := by
    simp [Block.render, unlinesOf, unlines, joinWith]
  rw [render, cut_unlines_flatMap (by simp [Block.lines]), List.flatMap_map]

namespace Schema

/-- The lines of the models before they are trimmed are empty or lines of blocks. -/
theorem exists_line_of_mem_body {r : Registry} {includeDocs : Bool}
    (lines : ∀ b ∈ r.blocks includeDocs, ∀ l ∈ b.lines, IsLine l.toList) {piece : List Char}
    (h : piece ∈ cut (· == '\n') (body r includeDocs)) :
    piece = [] ∨ ∃ b ∈ r.blocks includeDocs, ∃ l ∈ b.lines, piece = l.toList := by
  unfold body at h
  generalize r.blocks includeDocs = bs at h lines ⊢
  induction bs with
  | nil =>
    left
    simpa [cut] using h
  | cons b bs ih =>
    have own : cut (· == '\n') b.render.toList = b.lines.map String.toList := by
      rw [b.cut_render, List.map_eq_flatMap]
      exact List.flatMap_congr fun l hl => cut_of_isLine (lines b List.mem_cons_self l hl)
    rw [List.flatMap_cons, List.cons_append, List.cons_append, List.append_assoc,
      List.singleton_append, cut_cons_of_pos (by rfl), cut_append_cons (by rfl), own,
      List.mem_cons, List.mem_append] at h
    rcases h with h | h | h
    · exact .inl h
    · obtain ⟨l, hl, rfl⟩ := List.mem_map.1 h
      exact .inr ⟨b, List.mem_cons_self, l, hl, rfl⟩
    · refine (ih h fun b hb => lines b (List.mem_cons_of_mem _ hb)).imp_right ?_
      rintro ⟨b, hb, rest⟩
      exact ⟨b, List.mem_cons_of_mem _ hb, rest⟩

/-- The lines behind the one with the time start lines of blocks, or they are empty. -/
theorem exists_line_of_mem_modelText {r : Registry} {includeDocs : Bool}
    (lines : ∀ b ∈ r.blocks includeDocs, ∀ l ∈ b.lines, IsLine l.toList) {piece : List Char}
    (h : piece ∈ cut (· == '\n') (modelText r includeDocs)) :
    piece = [] ∨ ∃ b ∈ r.blocks includeDocs, ∃ l ∈ b.lines, piece <+: l.toList := by
  have trimmed : piece ∈ cut (· == '\n') (trimEnd (trimLines (body r includeDocs))) →
      piece = [] ∨ ∃ b ∈ r.blocks includeDocs, ∃ l ∈ b.lines, piece <+: l.toList := by
    intro h
    obtain ⟨whole, hw, start⟩ := exists_mem_cut_of_isPrefix (trimEnd_isPrefix _) h
    rw [cut_trimLines, List.mem_map] at hw
    obtain ⟨line, hline, rfl⟩ := hw
    rcases exists_line_of_mem_body lines hline with rfl | ⟨b, hb, l, hl, rfl⟩
    · exact .inl (List.prefix_nil.1 start)
    · exact .inr ⟨b, hb, l, hl, start.trans (trimEnd_isPrefix _)⟩
  unfold modelText at h
  simp only at h
  split at h
  · left
    simpa [cut] using h
  · rw [cut_append_cons (by rfl), List.mem_append] at h
    rcases h with h | h
    · exact trimmed h
    · left
      simpa [cut] using h

end Schema

end ModelSchema
