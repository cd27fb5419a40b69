import ModelSchema.Proofs.Registry.Pairing

/-!
# Origins of relations

A property gets its relation from the spelling of its type, or from its name when an array of
references to its model makes it point back. Resolving starts with the former and only pairing
brings in the latter, so every relation of a resolved registry has one of these two origins.

## Main definitions

* `Property.IsNamedAfter` — the names by which a property may point back at a model.
* `Property.spelledRelation` — the relation to a model of a registry that a spelling suggests.
* `Property.HasOrigin` — a relation that is spelled, or points back at a namesake.

## Main statements

* `Registry.HasOrigins.pairOne` — pairing one array of references keeps the origins.
* `Registry.hasOrigin_of_mem_resolve` — every relation of a resolved registry has one.
* `Registry.exists_array_of_manyToOne` — the declared array behind a property that points back.
-/

namespace ModelSchema

namespace Property

variable {names suffixes : List String} {p q : Property}

/-- The property is named like the model, alone or with `id` behind, in any letter case. -/
def IsNamedAfter (p : Property) (model : String) : Prop :=
  Text.lowerOf p.name = Text.lowerOf model ∨ Text.lowerOf p.name = Text.lowerOf model ++ "id"

instance (p : Property) (model : String) : Decidable (p.IsNamedAfter model) :=
  inferInstanceAs (Decidable (_ ∨ _))

theorem pointsBackAt_iff {owner : String} :
    p.pointsBackAt owner ↔
      p.IsNamedAfter owner ∧ (p.relation.kind = .none ∨ p.relation.kind = .oneToOne) := by
  simp [pointsBackAt, IsNamedAfter]

/-- The relation to one of the named models that the spelling of the type suggests. -/
def spelledRelation (p : Property) (names suffixes : List String) : Relation :=
  ((p.mark suffixes).keepKnown names).relation

/-- What a spelling suggests does not depend on the relation of the property. -/
theorem spelledRelation_congr (h : p.rawType = q.rawType) :
    p.spelledRelation names suffixes = q.spelledRelation names suffixes := by
  simp only [spelledRelation, mark, h, keepKnown]
  grind

/-- The relation is the spelled one, with or without a partner; or the property, which is spelled
as no array of references, points back at a model that it is named after. -/
def HasOrigin (names suffixes : List String) (p : Property) : Prop :=
  (p.relation.kind = (p.spelledRelation names suffixes).kind ∧
    p.relation.target = (p.spelledRelation names suffixes).target) ∨
  p.relation.kind = .manyToOne ∧ p.IsNamedAfter p.relation.target ∧
    (p.spelledRelation names suffixes).kind ≠ .oneToMany

/-- A new partner leaves the origin of a relation as it is. -/
theorem HasOrigin.withField (h : p.HasOrigin names suffixes) (field : Option String) :
    HasOrigin names suffixes { p with relation := { p.relation with field } } := by
  have spelled : spelledRelation { p with relation := { p.relation with field } } names suffixes =
      p.spelledRelation names suffixes := spelledRelation_congr rfl
  unfold HasOrigin
  rw [spelled]
  exact h

/-- A property that points back becomes a relation to the model that it is named after. -/
theorem HasOrigin.pointBack {owner : String} (h : p.HasOrigin names suffixes)
    (points : p.pointsBackAt owner) (field : Option String) :
    HasOrigin names suffixes { p with relation := ⟨.manyToOne, owner, field⟩ } := by
  have spelled : spelledRelation { p with relation := ⟨.manyToOne, owner, field⟩ } names suffixes =
      p.spelledRelation names suffixes := spelledRelation_congr rfl
  obtain ⟨namesake, single⟩ := pointsBackAt_iff.1 points
  refine .inr ⟨rfl, namesake, ?_⟩
  rw [spelled]
  obtain ⟨kind, -⟩ | ⟨-, -, noArray⟩ := h
  · intro array
    rw [kind, array] at single
    simp at single
  · exact noArray

/-- No spelling makes a property point back, so what points back is named after its model. -/
theorem HasOrigin.isNamedAfter (h : p.HasOrigin names suffixes)
    (kind : p.relation.kind = .manyToOne) : p.IsNamedAfter p.relation.target := by
  obtain ⟨spelled, -⟩ | ⟨-, namesake, -⟩ := h
  · have candidate : (p.spelledRelation names suffixes).IsCandidate names :=
      p.isCandidate_keepKnown_mark names suffixes
    rw [kind] at spelled
    obtain absent | ⟨kind', _, -, single, rel⟩ := candidate
    · rw [absent] at spelled
      cases spelled
    · rw [rel, show (Relation.unpaired kind' _).kind = kind' from rfl] at spelled
      subst spelled
      simp at single
  · exact namesake

end Property

namespace Registry

variable {names suffixes : List String} {r : Registry}

/-- Every relation of the registry has an origin. -/
def HasOrigins (names suffixes : List String) (r : Registry) : Prop :=
  ∀ place p, r.propertyAt? place = some p → p.HasOrigin names suffixes

/-- Before pairing all relations are the spelled ones. -/
theorem hasOrigins_dropUnknown (r : Registry) (suffixes : List String) :
    HasOrigins r.names suffixes (r.markCandidates suffixes).dropUnknown := by
  intro place p hp
  simp only [dropUnknown, markCandidates, propertyAt?_mapProperties, names_mapProperties,
    Option.map_eq_some_iff] at hp
  obtain ⟨-, ⟨d, -, rfl⟩, rfl⟩ := hp
  have raw : ((d.mark suffixes).keepKnown r.names).rawType = d.rawType := by
    unfold Property.keepKnown Property.mark
    grind
  left
  rw [Property.spelledRelation_congr raw]
  exact ⟨rfl, rfl⟩

/-- A change at one place keeps the origins if it keeps the one there. -/
theorem HasOrigins.modifyAt (h : HasOrigins names suffixes r) (place : Place)
    {f : Property → Property}
    (keeps : ∀ p, r.propertyAt? place = some p → (f p).HasOrigin names suffixes) :
    HasOrigins names suffixes (r.modifyAt place.model place.index f) := by
  intro other p hp
  rw [propertyAt?_modifyAt] at hp
  split at hp
  · rename_i same
    obtain ⟨q, hq, rfl⟩ := Option.map_eq_some_iff.1 hp
    rw [same] at hq
    exact keeps q hq
  · exact h other p hp

/-- Pairing makes one property point back at a model that it is named after, and gives one array
of references a partner. -/
theorem HasOrigins.pairOne {state : Registry × Nat} (h : HasOrigins names suffixes state.1)
    (f : ForwardReference) : HasOrigins names suffixes (pairOne state f).1 := by
  unfold Registry.pairOne
  cases found : state.1.backIndex? f with
  | none => exact h
  | some back =>
    obtain ⟨b, hb, points⟩ := backIndex?_eq_some found
    simp only [pairAt]
    split
    · rename_i forward backward _ _
      have pointing := h.modifyAt ⟨f.target, back⟩
        (f := fun p => { p with relation := ⟨.manyToOne, f.owner, some forward.name⟩ })
        fun p hp => by
          obtain rfl := Option.some.inj (hb.symm.trans hp)
          exact (h _ _ hb).pointBack points _
      exact pointing.modifyAt f.place fun p hp => (pointing _ _ hp).withField _
    · exact h

/-- A property of a resolved registry has the relation that its type spells, or points back at a
model that it is named after. -/
theorem hasOrigin_of_mem_resolve {suffixes : List String} {m : Model} {p : Property}
    (hm : m ∈ (r.resolve suffixes).1.models) (hp : p ∈ m.properties) :
    p.HasOrigin r.names suffixes := by
  have run : ∀ (fs : List ForwardReference) (state : Registry × Nat),
      HasOrigins r.names suffixes state.1 →
        HasOrigins r.names suffixes (fs.foldl Registry.pairOne state).1 := by
    intro fs
    induction fs with
    | nil => exact fun _ h => h
    | cons f fs ih => exact fun state h => ih _ (h.pairOne f)
  obtain ⟨index, hplace⟩ := exists_place hm hp
  exact run _ _ (hasOrigins_dropUnknown r suffixes) _ _ hplace

/-- A property that points back has a declared array of references to its model for the reason,
in the model that it points back at. -/
theorem exists_array_of_manyToOne {suffixes : List String} {m : Model} {p : Property}
    (hm : m ∈ (r.resolve suffixes).1.models) (hp : p ∈ m.properties)
    (kind : p.relation.kind = .manyToOne) :
    ∃ owner ∈ r.models, owner.name = p.relation.target ∧ ∃ q ∈ owner.properties,
      (q.spelledRelation r.names suffixes).kind = .oneToMany ∧
      (q.spelledRelation r.names suffixes).target = m.name := by
  obtain ⟨index, hplace⟩ := exists_place hm hp
  obtain ⟨forward, ⟨f, _, hf, -, arrayRelation, -⟩, target⟩ :=
    exists_partners_of_manyToOne hplace kind
  obtain ⟨owner, howner, name, hindex⟩ := propertyAt?_eq_some_iff.1 hf
  have hmem : f ∈ owner.properties := List.mem_of_getElem? hindex
  obtain ⟨declared, hdeclared, name', same⟩ := exists_declared_of_mem_resolve howner
  have unrelated : f.unrelated ∈ declared.properties.map (·.unrelated) :=
    same ▸ List.mem_map_of_mem hmem
  obtain ⟨q, hq, unrelated⟩ := List.mem_map.1 unrelated
  injection unrelated with _ raw
  refine ⟨declared, hdeclared, by rw [name', name, target], q, hq, ?_⟩
  rw [Property.spelledRelation_congr raw]
  obtain ⟨spelledKind, spelledTarget⟩ | ⟨pointing, -⟩ := hasOrigin_of_mem_resolve howner hmem
  · rw [← spelledKind, ← spelledTarget, arrayRelation]
    exact ⟨rfl, rfl⟩
  · rw [arrayRelation] at pointing
    cases pointing

end Registry

end ModelSchema
