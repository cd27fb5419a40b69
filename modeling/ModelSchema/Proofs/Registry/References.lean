import ModelSchema.Classifier
import ModelSchema.Proofs.Registry.Origin

/-!
# References by their spelling

The spelling of a type refers to a model by the name alone or as an array of it. An array whose
element has an excluded suffix is no reference, while the name alone is one whatever its suffix. So
the two ways of spelling agree for the models that were accepted by their name, and disagree for a
model with such a suffix that was pinned or marked.

## Main definitions

* `Spelling.IsName`, `Spelling.IsArrayOf` — the name alone, and the two spellings of an array.

## Main statements

* `Spelling.candidate?_eq_oneToOne_iff`, `Spelling.candidate?_eq_oneToMany_iff` — what a spelling
  suggests.
* `Property.HasOrigin.oneToMany_iff`, `Property.HasOrigin.oneToOne_iff` — the relations that come
  of it.
* `Registry.exists_resolved` — a declared property in the resolved registry.
* `Registry.resolve_relates` — what becomes of a reference to a model of the registry.
-/

namespace ModelSchema

open Text

namespace Spelling

variable {raw name : String} {suffixes : List String} {cs element : List Char}

/-! ## Spellings of a reference -/

/-- The spelling is the name alone, with any blanks. -/
def IsName (raw name : String) : Prop := compact raw.toList = name.toList

/-- The spelling is an array of the name, with any blanks. -/
def IsArrayOf (raw name : String) : Prop :=
  compact raw.toList = name.toList ++ "[]".toList ∨
    compact raw.toList = "Array<".toList ++ (name.toList ++ ">".toList)

instance (raw name : String) : Decidable (IsName raw name) := inferInstanceAs (Decidable (_ = _))

instance (raw name : String) : Decidable (IsArrayOf raw name) :=
  inferInstanceAs (Decidable (_ ∨ _))

/-- No text ends in both of the ways in which an array spelling may end. -/
theorem not_isSuffix_brackets (front : List Char) : ¬ "[]".toList <:+ front ++ ">".toList := by
  rintro ⟨back, same⟩
  have last := congrArg List.getLast? same
  simp at last

theorem element?_eq_some_iff :
    element? cs = some element ↔
      cs = element ++ "[]".toList ∨ cs = "Array<".toList ++ (element ++ ">".toList) := by
  unfold element?
  split
  · rename_i found h
    have suffixed := List.isSuffixOf?_eq_some_iff_append_eq.1 h
    constructor
    · rintro ⟨⟩
      exact .inl suffixed.symm
    · rintro (same | same)
      · rw [← suffixed, List.append_left_inj] at same
        rw [same]
      · rw [same, ← List.append_assoc] at suffixed
        exact absurd ⟨found, suffixed⟩ (not_isSuffix_brackets _)
  · rename_i h
    rw [Option.bind_eq_some_iff]
    constructor
    · rintro ⟨rest, front, back⟩
      rw [List.isPrefixOf?_eq_some_iff_append_eq] at front
      rw [List.isSuffixOf?_eq_some_iff_append_eq] at back
      exact .inr (by rw [← front, ← back])
    · rintro (same | same)
      · rw [List.isSuffixOf?_eq_some_iff_append_eq.2 same.symm] at h
        cases h
      · exact ⟨element ++ ">".toList, List.isPrefixOf?_eq_some_iff_append_eq.2 same.symm,
          List.isSuffixOf?_eq_some_iff_append_eq.2 rfl⟩

/-- Letters, digits and a few signs make up a name, so a name is no array. -/
theorem element?_of_isTypeName (h : isTypeName cs) : element? cs = none := by
  have last : ∀ c, cs.getLast? = some c → c.isAlphanum ∨ c = '_' ∨ c = '$' := by
    intro c hc
    cases cs with
    | nil => cases hc
    | cons d ds =>
      simp only [isTypeName, Bool.and_eq_true, List.all_eq_true, Bool.or_eq_true, beq_iff_eq] at h
      rcases List.mem_cons.1 (List.mem_of_getLast? hc) with rfl | mem
      · refine .inl ?_
        change (c.isUpper || c.isLower || c.isDigit) = true
        simp [h.1]
      · simpa [or_assoc] using h.2 c mem
  rw [Option.eq_none_iff_forall_ne_some]
  intro element found
  rcases element?_eq_some_iff.1 found with rfl | rfl
  · exact absurd (last ']' (by simp)) (by decide)
  · exact absurd (last '>' (by simp [List.getLast?_cons])) (by decide)

/-! ## What a spelling suggests -/

theorem candidate?_eq_oneToOne_iff :
    candidate? suffixes raw = some (.oneToOne, name) ↔
      IsName raw name ∧ isTypeName name.toList ∧ name ∉ builtinNames := by
  unfold candidate? IsName
  constructor
  · intro h
    grind [String.toList_ofList]
  · rintro ⟨same, type, ordinary⟩
    simp only [same, element?_of_isTypeName type]
    simp [type, ordinary]

theorem candidate?_eq_oneToMany_iff :
    candidate? suffixes raw = some (.oneToMany, name) ↔
      IsArrayOf raw name ∧ isTypeName name.toList ∧ ¬ hasSuffix suffixes name.toList := by
  unfold candidate? IsArrayOf
  rw [← element?_eq_some_iff]
  constructor
  · intro h
    grind [String.toList_ofList]
  · rintro ⟨same, type, free⟩
    simp [same, type, free]

/-- An array of a name with an excluded suffix is no reference. -/
theorem candidate?_of_hasSuffix (array : IsArrayOf raw name)
    (excluded : hasSuffix suffixes name.toList) : candidate? suffixes raw = none := by
  have same := element?_eq_some_iff.2 array
  simp [candidate?, same, excluded]

end Spelling

/-- Unless it is pinned, a model that is accepted by its name has no excluded suffix. -/
theorem ModelSettings.not_hasSuffix_of_isModel {models : ModelSettings} {name : String}
    {doc : Option String} (naming : models.classifier = .naming) (unpinned : name ∉ models.pinned)
    (accepted : models.isModel name doc) :
    ¬ Spelling.hasSuffix models.excludedSuffixes name.toList := by
  have shape : isModelName models.excludedSuffixes name.toList := by
    simpa [isModel, naming, unpinned] using accepted
  unfold isModelName at shape
  split at shape
  · cases shape
  · rename_i c rest same
    rw [same]
    simp only [Bool.and_eq_true, Bool.not_eq_true', same] at shape
    simp [shape.2]

namespace Property

variable {names suffixes : List String} {p : Property} {kind : RelationKind} {target : String}

/-- A property is to be related to a model just when its spelling suggests so and the model is
there. -/
theorem spelledRelation_eq_unpaired_iff (ne : kind ≠ .none) :
    (p.spelledRelation names suffixes).kind = kind ∧
        (p.spelledRelation names suffixes).target = target ↔
      Spelling.candidate? suffixes p.rawType = some (kind, target) ∧ target ∈ names := by
  rw [spelledRelation, relation_keepKnown_mark]
  grind [Relation.unpaired, Relation.absent]

/-! ## Kinds by their origin -/

/-- Arrays of references are the spelled ones. -/
theorem HasOrigin.oneToMany_iff (h : p.HasOrigin names suffixes) :
    p.relation.kind = .oneToMany ∧ p.relation.target = target ↔
      Spelling.candidate? suffixes p.rawType = some (.oneToMany, target) ∧ target ∈ names := by
  rw [← spelledRelation_eq_unpaired_iff (by simp)]
  obtain ⟨kind, leads⟩ | ⟨kind, -, noArray⟩ := h
  · rw [kind, leads]
  · simp [kind, noArray]

/-- Single references are the spelled ones, but for those that point back. -/
theorem HasOrigin.oneToOne_iff (h : p.HasOrigin names suffixes)
    (forward : p.relation.kind ≠ .manyToOne) :
    p.relation.kind = .oneToOne ∧ p.relation.target = target ↔
      Spelling.candidate? suffixes p.rawType = some (.oneToOne, target) ∧ target ∈ names := by
  rw [← spelledRelation_eq_unpaired_iff (by simp)]
  obtain ⟨kind, leads⟩ | ⟨kind, -⟩ := h
  · rw [kind, leads]
  · exact absurd kind forward

/-- What spells no reference is no relation, unless it points back. -/
theorem HasOrigin.kind_eq_none (h : p.HasOrigin names suffixes)
    (forward : p.relation.kind ≠ .manyToOne)
    (plain : Spelling.candidate? suffixes p.rawType = none) : p.relation.kind = .none := by
  have absent : p.spelledRelation names suffixes = .absent := by
    rw [spelledRelation, relation_keepKnown_mark, plain]
  obtain ⟨kind, -⟩ | ⟨kind, -⟩ := h
  · rw [kind, absent]
    rfl
  · exact absurd kind forward

/-- The name of a model alone is a single reference to it, unless the property points back. -/
theorem HasOrigin.kind_of_isName (h : p.HasOrigin names suffixes)
    (bare : Spelling.IsName p.rawType target) (type : Spelling.isTypeName target.toList)
    (ordinary : target ∉ Spelling.builtinNames) (known : target ∈ names) :
    p.relation.kind = .manyToOne ∨ p.relation.kind = .oneToOne ∧ p.relation.target = target := by
  by_cases back : p.relation.kind = .manyToOne
  · exact .inl back
  · refine .inr ((h.oneToOne_iff back).2 ⟨?_, known⟩)
    exact Spelling.candidate?_eq_oneToOne_iff.2 ⟨bare, type, ordinary⟩

/-- An array of a model is an array of references just when the name has no excluded suffix. -/
theorem HasOrigin.oneToMany_iff_of_isArrayOf (h : p.HasOrigin names suffixes)
    (array : Spelling.IsArrayOf p.rawType target) (type : Spelling.isTypeName target.toList)
    (known : target ∈ names) :
    p.relation.kind = .oneToMany ∧ p.relation.target = target ↔
      ¬ Spelling.hasSuffix suffixes target.toList := by
  rw [h.oneToMany_iff, Spelling.candidate?_eq_oneToMany_iff]
  simp [array, type, known]

/-- An array of a name with an excluded suffix can only be a relation that points back. -/
theorem HasOrigin.kind_of_hasSuffix (h : p.HasOrigin names suffixes)
    (array : Spelling.IsArrayOf p.rawType target)
    (excluded : Spelling.hasSuffix suffixes target.toList) (present : p.relation.isPresent) :
    p.relation.kind = .manyToOne := by
  by_contra forward
  have none := h.kind_eq_none forward (Spelling.candidate?_of_hasSuffix array excluded)
  simp [Relation.isPresent, none] at present

end Property

namespace Registry

variable {r : Registry} {suffixes : List String} {place : Place} {p : Property} {name : String}

/-! ## References in a resolved registry -/

/-- A declared property stands at its place in the resolved registry, with a relation that has an
origin. -/
theorem exists_resolved (hp : r.propertyAt? place = some p) (suffixes : List String) :
    ∃ q, (r.resolve suffixes).1.propertyAt? place = some q ∧ q.unrelated = p.unrelated ∧
      q.HasOrigin r.names suffixes := by
  have kept : ((r.resolve suffixes).1.propertyAt? place).map (·.unrelated) =
      some p.unrelated := by
    rw [← propertyAt?_mapProperties, ← unrelated, unrelated_resolve, unrelated,
      propertyAt?_mapProperties, hp, Option.map_some]
  obtain ⟨q, hq, same⟩ := Option.map_eq_some_iff.1 kept
  obtain ⟨m, hm, -, hindex⟩ := propertyAt?_eq_some_iff.1 hq
  exact ⟨q, hq, same, hasOrigin_of_mem_resolve hm (List.mem_of_getElem? hindex)⟩

/-- The name of a model of the registry, alone, is a relation in the resolved registry: to that
model, or back at a model that the property is named after. An array of the name is one to many to
the model just when the name has no excluded suffix, which is so for a model that was accepted by
its name without being pinned; with such a suffix it can only point back at a model that the
property is named after. -/
theorem resolve_relates (hp : r.propertyAt? place = some p) (suffixes : List String)
    (type : Spelling.isTypeName name.toList) (ordinary : name ∉ Spelling.builtinNames)
    (known : name ∈ r.names) :
    ∃ q, (r.resolve suffixes).1.propertyAt? place = some q ∧ q.unrelated = p.unrelated ∧
      (Spelling.IsName p.rawType name → q.relation.isPresent ∧
        (q.relation.target = name ∨
          q.relation.kind = .manyToOne ∧ q.IsNamedAfter q.relation.target)) ∧
      (Spelling.IsArrayOf p.rawType name →
        (q.relation.kind = .oneToMany ∧ q.relation.target = name ↔
          ¬ Spelling.hasSuffix suffixes name.toList) ∧
        (q.relation.isPresent → Spelling.hasSuffix suffixes name.toList →
          q.relation.kind = .manyToOne ∧ q.IsNamedAfter q.relation.target)) ∧
      ∀ (models : ModelSettings) (doc : Option String), models.excludedSuffixes = suffixes →
        models.classifier = .naming → name ∉ models.pinned → models.isModel name doc →
        Spelling.IsName p.rawType name ∨ Spelling.IsArrayOf p.rawType name →
        q.relation.isPresent := by
  obtain ⟨q, hq, same, origin⟩ := exists_resolved hp suffixes
  have raw : p.rawType = q.rawType := (congrArg (·.rawType) same).symm
  rw [raw]
  refine ⟨q, hq, same, fun bare => ?_, fun array => ⟨?_, fun present excluded => ?_⟩, ?_⟩
  · rcases origin.kind_of_isName bare type ordinary known with back | ⟨single, target⟩
    · exact ⟨by simp [Relation.isPresent, back], .inr ⟨back, origin.isNamedAfter back⟩⟩
    · exact ⟨by simp [Relation.isPresent, single], .inl target⟩
  · exact origin.oneToMany_iff_of_isArrayOf array type known
  · have back := origin.kind_of_hasSuffix array excluded present
    exact ⟨back, origin.isNamedAfter back⟩
  · rintro models doc rfl naming unpinned accepted (bare | array)
    · rcases origin.kind_of_isName bare type ordinary known with back | ⟨single, -⟩
      · simp [Relation.isPresent, back]
      · simp [Relation.isPresent, single]
    · have unsuffixed := ModelSettings.not_hasSuffix_of_isModel naming unpinned accepted
      have arrays := origin.oneToMany_iff_of_isArrayOf array type known
      simp [Relation.isPresent, (arrays.2 unsuffixed).1]

/-- A shop with references to an item and to a model whose name has an excluded suffix. -/
def shop : Registry :=
  let model (name : String) (properties : List Property) : Model :=
    { name, properties, sourceFile := "shop.ts" }
  empty.insertAll [
    model "Item" [.declared "price" "number" ⟨.int, false⟩],
    model "ShopConfig" [.declared "name" "string" ⟨.string, false⟩],
    model "Shop" [.declared "items" "Array< Item >" ⟨.json, false⟩,
      .declared "main" "ShopConfig" ⟨.string, false⟩,
      .declared "configs" "ShopConfig[]" ⟨.json, false⟩,
      .declared "others" "Array<ShopConfig>" ⟨.json, false⟩]]

/-- An item is a model by its name, so an array of items is a relation. -/
theorem resolve_relates_items :
    ∃ q, (shop.resolve ({} : ModelSettings).excludedSuffixes).1.propertyAt? ⟨"Shop", 0⟩ = some q ∧
      q.name = "items" ∧ q.relation.kind = .oneToMany ∧ q.relation.target = "Item" := by
  have declared : ∃ p, shop.propertyAt? ⟨"Shop", 0⟩ = some p ∧ p.name = "items" ∧
      Spelling.IsArrayOf p.rawType "Item" := ⟨_, rfl, rfl, by decide⟩
  obtain ⟨p, hp, name, array⟩ := declared
  obtain ⟨q, hq, same, -, arrays, -⟩ :=
    resolve_relates hp ({} : ModelSettings).excludedSuffixes
      (show Spelling.isTypeName "Item".toList by decide) (by decide) (by decide)
  have ⟨kind, target⟩ := (arrays array).1.2 (by decide +kernel)
  exact ⟨q, hq, (congrArg (·.name) same).trans name, kind, target⟩

/-- A pinned or marked model with an excluded suffix is referred to by its name alone, and not by
the arrays of it. -/
theorem resolve_ignores_suffixed_arrays :
    ({ pinned := ["ShopConfig"] } : ModelSettings).isModel "ShopConfig" none ∧
    ({ classifier := .marker } : ModelSettings).isModel "ShopConfig" (some "@model") ∧
    Spelling.isTypeName "ShopConfig".toList ∧ "ShopConfig" ∉ Spelling.builtinNames ∧
    "ShopConfig" ∈ shop.names ∧
    let resolved := (shop.resolve ({} : ModelSettings).excludedSuffixes).1
    ((resolved.propertiesOf "Shop").tail.map fun p => (p.rawType, p.relation.isPresent)) =
      [("ShopConfig", true), ("ShopConfig[]", false), ("Array<ShopConfig>", false)] := by
  decide +kernel

end Registry

end ModelSchema
