import Mathlib.Data.List.Nodup
import ModelSchema.Registry.Resolve

/-!
# Places in a registry

A place is a model of a registry together with the index of one of its properties. Names are
unique in a registry, so a place has at most one property, and a change at one place is invisible
at every other one.

## Main definitions

* `Place`, `Registry.propertyAt?` — places and what stands there.
* `ForwardReference.place` — the place of an array of references.

## Main statements

* `Registry.propertyAt?_modifyAt`, `Registry.propertyAt?_mapProperties` — what a change does to
  every place.
* `Registry.modifyAt_comm` — changes at different places can be made in either order.
* `Registry.mem_forwardReferences`, `Registry.nodup_place_forwardReferences` — the arrays of
  references of a registry are at pairwise different places.
-/

namespace ModelSchema

/-- A model, by its name, and the index of one of its properties. -/
structure Place where
  model : String
  index : Nat
deriving DecidableEq, Repr

namespace Registry

variable {r : Registry} {m : Model} {p : Property} {name : String}

@[ext] theorem ext {r r' : Registry} (h : r.models = r'.models) : r = r' := by
  cases r
  cases r'
  simpa using h

/-! ## Models by name -/

/-- Names are unique, so looking a name up gives the only model that bears it. -/
theorem get?_eq_some_iff : r.get? name = some m ↔ m ∈ r.models ∧ m.name = name := by
  constructor
  · intro h
    exact ⟨List.mem_of_find?_eq_some h, by simpa using List.find?_some h⟩
  · rintro ⟨hm, rfl⟩
    obtain ⟨found, hfound⟩ := Option.isSome_iff_exists.1
      (List.find?_isSome (p := (·.name == m.name)) |>.2 ⟨m, hm, by simp⟩)
    have same : found.name = m.name := by simpa using List.find?_some hfound
    have unique := List.inj_on_of_nodup_map r.nodup (List.mem_of_find?_eq_some hfound) hm same
    exact unique ▸ hfound

theorem get?_of_mem (h : m ∈ r.models) : r.get? m.name = some m :=
  get?_eq_some_iff.2 ⟨h, rfl⟩

theorem mem_names_iff : name ∈ r.names ↔ ∃ m ∈ r.models, m.name = name := by
  simp [names]

/-- A change that keeps names commutes with looking a name up. -/
theorem get?_mapModels (r : Registry) (f : Model → Model) (keeps : ∀ m, (f m).name = m.name)
    (name : String) : (r.mapModels f keeps).get? name = (r.get? name).map f := by
  have same : (fun m : Model => m.name == name) ∘ f = fun m => m.name == name := by
    funext m
    rw [Function.comp_apply, keeps]
  simp only [get?, mapModels, List.find?_map, same]

theorem propertiesOf_mapProperties (r : Registry) (f : Property → Property) (name : String) :
    (r.mapProperties f).propertiesOf name = (r.propertiesOf name).map f := by
  unfold propertiesOf mapProperties
  rw [get?_mapModels]
  cases r.get? name <;> rfl

theorem propertiesOf_modifyAt (r : Registry) (name : String) (index : Nat)
    (f : Property → Property) (other : String) :
    (r.modifyAt name index f).propertiesOf other =
      if other = name then (r.propertiesOf other).modify index f else r.propertiesOf other := by
  unfold propertiesOf modifyAt
  rw [get?_mapModels]
  cases h : r.get? other with
  | none => simp
  | some m =>
    obtain ⟨-, rfl⟩ := get?_eq_some_iff.1 h
    by_cases hn : m.name = name <;> simp [hn]

/-! ## Properties by place -/

/-- The property at a place. -/
def propertyAt? (r : Registry) (place : Place) : Option Property :=
  (r.propertiesOf place.model)[place.index]?

theorem propertyAt?_eq_some_iff {place : Place} :
    r.propertyAt? place = some p ↔
      ∃ m ∈ r.models, m.name = place.model ∧ m.properties[place.index]? = some p := by
  unfold propertyAt? propertiesOf
  cases h : r.get? place.model with
  | none =>
    have absent : ∀ m ∈ r.models, m.name ≠ place.model := fun m hm same =>
      Option.some_ne_none m ((get?_eq_some_iff.2 ⟨hm, same⟩).symm.trans h)
    grind
  | some found =>
    have ⟨hfound, same⟩ := get?_eq_some_iff.1 h
    constructor
    · intro hp
      exact ⟨found, hfound, same, hp⟩
    · rintro ⟨m, hm, hname, hp⟩
      have eq : found = m :=
        Option.some.inj (h.symm.trans (get?_eq_some_iff.2 ⟨hm, hname⟩))
      exact eq ▸ hp

/-- Every property of a registry is at some place. -/
theorem exists_place (hm : m ∈ r.models) (hp : p ∈ m.properties) :
    ∃ index, r.propertyAt? ⟨m.name, index⟩ = some p := by
  obtain ⟨index, h⟩ := List.mem_iff_getElem?.1 hp
  exact ⟨index, propertyAt?_eq_some_iff.2 ⟨m, hm, rfl, h⟩⟩

@[simp] theorem propertyAt?_mapProperties (r : Registry) (f : Property → Property)
    (place : Place) : (r.mapProperties f).propertyAt? place = (r.propertyAt? place).map f := by
  simp [propertyAt?, propertiesOf_mapProperties]

/-- A change at one place is seen there and nowhere else. -/
theorem propertyAt?_modifyAt (r : Registry) (name : String) (index : Nat)
    (f : Property → Property) (place : Place) :
    (r.modifyAt name index f).propertyAt? place =
      if place = ⟨name, index⟩ then (r.propertyAt? place).map f else r.propertyAt? place := by
  obtain ⟨name', index'⟩ := place
  simp only [propertyAt?, propertiesOf_modifyAt, Place.mk.injEq]
  by_cases hn : name' = name
  · subst hn
    by_cases hi : index = index'
    · simp [hi]
    · simp [hi, Ne.symm hi]
  · simp [hn]

/-- What a change at a place keeps of the property there is kept everywhere. -/
theorem map_propertyAt?_modifyAt {α : Type} {φ : Property → α} {f : Property → Property}
    {index : Nat} (keeps : ∀ p, r.propertyAt? ⟨name, index⟩ = some p → φ (f p) = φ p)
    (place : Place) :
    ((r.modifyAt name index f).propertyAt? place).map φ = (r.propertyAt? place).map φ := by
  rw [propertyAt?_modifyAt]
  split
  · rename_i same
    rw [same]
    cases h : r.propertyAt? ⟨name, index⟩ with
    | none => rfl
    | some p => simp [keeps p h]
  · rfl

/-- Changes at different places can be made in either order. -/
theorem modifyAt_comm {name' : String} {index index' : Nat}
    (apart : (⟨name, index⟩ : Place) ≠ ⟨name', index'⟩) (r : Registry)
    (f g : Property → Property) :
    (r.modifyAt name index f).modifyAt name' index' g =
      (r.modifyAt name' index' g).modifyAt name index f := by
  ext1
  simp only [modifyAt, mapModels, List.map_map]
  refine List.map_congr_left fun m _ => ?_
  by_cases hn : m.name = name
  · subst hn
    by_cases hn' : m.name = name'
    · subst hn'
      have indices : index ≠ index' := fun same => apart (same ▸ rfl)
      simp [List.modify_modify_ne _ _ _ indices]
    · simp [hn']
  · by_cases hn' : m.name = name'
    · subst hn'
      simp [hn]
    · simp [hn, hn']

end Registry

/-! ## Arrays of references -/

/-- The place of an array of references. -/
def ForwardReference.place (f : ForwardReference) : Place := ⟨f.owner, f.index⟩

namespace Registry

theorem mem_forwardReferences {r : Registry} {f : ForwardReference} :
    f ∈ r.forwardReferences ↔ ∃ p, r.propertyAt? f.place = some p ∧
      p.relation.kind = .oneToMany ∧ f.target = p.relation.target := by
  simp only [forwardReferences, List.mem_flatMap, List.mem_filterMap, Prod.exists,
    List.mem_zipIdx_iff_getElem?]
  constructor
  · rintro ⟨m, hm, p, index, hp, h⟩
    split at h
    · rename_i kind
      obtain rfl := Option.some.inj h
      exact ⟨p, propertyAt?_eq_some_iff.2 ⟨m, hm, rfl, hp⟩, kind, rfl⟩
    · cases h
  · rintro ⟨p, hp, kind, target⟩
    obtain ⟨m, hm, name, hp⟩ := propertyAt?_eq_some_iff.1 hp
    refine ⟨m, hm, p, f.index, hp, ?_⟩
    rw [if_pos kind, name, ← target]
    rfl

/-- The arrays of references of one model, with the index of each. -/
theorem nodup_index_filterMap_zipIdx (name : String) (ps : List Property) :
    ((ps.zipIdx.filterMap fun (p, index) =>
      if p.relation.kind = .oneToMany then some ⟨name, index, p.relation.target⟩
      else none : List ForwardReference).map ForwardReference.place).Nodup := by
  rw [List.map_filterMap]
  have indices : (ps.zipIdx.map Prod.snd).Nodup := by
    rw [List.zipIdx_map_snd]
    exact List.nodup_range'
  refine List.Pairwise.filterMap _ ?_ (List.Pairwise.of_map _ (fun _ _ h => h) indices)
  intro x y hxy a ha b hb
  grind [ForwardReference.place]

theorem nodup_place_forwardReferences (r : Registry) :
    (r.forwardReferences.map ForwardReference.place).Nodup := by
  unfold forwardReferences
  rw [List.map_flatMap, List.nodup_flatMap]
  refine ⟨fun m _ => nodup_index_filterMap_zipIdx m.name m.properties, ?_⟩
  refine (List.Pairwise.of_map _ (fun _ _ h => h) r.nodup).imp ?_
  intro m m' hne place hm hm'
  grind [ForwardReference.place]

end Registry

end ModelSchema
