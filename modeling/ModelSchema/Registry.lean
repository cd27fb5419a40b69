import ModelSchema.Model

/-!
# Registries

The models found in one set of sources, by name. Models keep the place at which their name came
first; a later model of the same name takes that place.

## Main definitions

* `Registry` — models with pairwise different names.
* `Registry.insert` — a further model, in the place of one of the same name.
* `Registry.get?`, `Registry.contains`, `Registry.names` — the views of a registry.
* `Registry.mapProperties`, `Registry.modifyAt` — changes that keep every name.
-/

namespace ModelSchema

/-- Models with pairwise different names, in the order in which the names came first. -/
structure Registry where
  models : List Model := []
  nodup : (models.map (·.name)).Nodup := by simp

namespace Registry

/-- The registry without models. -/
def empty : Registry := {}

def names (r : Registry) : List String := r.models.map (·.name)

def size (r : Registry) : Nat := r.models.length

def get? (r : Registry) (name : String) : Option Model :=
  r.models.find? (·.name == name)

def contains (r : Registry) (name : String) : Bool := r.names.contains name

/-- The models with `m` in the place of the one of its name, or at the end. -/
def place (models : List Model) (m : Model) : List Model :=
  if (models.map (·.name)).contains m.name then
    models.map fun old => if old.name = m.name then m else old
  else models ++ [m]

theorem map_name_place (models : List Model) (m : Model) :
    (place models m).map (·.name) =
      if (models.map (·.name)).contains m.name then models.map (·.name)
      else models.map (·.name) ++ [m.name] := by
  unfold place
  split
  · rw [List.map_map]
    refine List.map_congr_left fun old _ => ?_
    by_cases h : old.name = m.name <;> simp [h]
  · simp

theorem nodup_place {models : List Model} (h : (models.map (·.name)).Nodup) (m : Model) :
    ((place models m).map (·.name)).Nodup := by
  rw [map_name_place]
  split
  · exact h
  · rename_i hn
    rw [List.nodup_append]
    refine ⟨h, by simp, ?_⟩
    intro a ha b hb hab
    rw [List.mem_singleton] at hb
    subst hb hab
    exact hn (by simpa using ha)

/-- `m` in the place of the model of the same name, or behind all others. -/
def insert (r : Registry) (m : Model) : Registry :=
  ⟨place r.models m, nodup_place r.nodup m⟩

/-- The models in order, each inserted into the registry before it. -/
def insertAll (r : Registry) (models : List Model) : Registry :=
  models.foldl insert r

/-- Every model changed in a way that keeps its name. -/
def mapModels (r : Registry) (f : Model → Model) (keeps : ∀ m, (f m).name = m.name) : Registry :=
  ⟨r.models.map f, by simpa [List.map_map, Function.comp_def, keeps] using r.nodup⟩

/-- Every property of every model changed. -/
def mapProperties (r : Registry) (f : Property → Property) : Registry :=
  r.mapModels (fun m => { m with properties := m.properties.map f }) fun _ => rfl

/-- The property at `index` of the model `name` changed. -/
def modifyAt (r : Registry) (name : String) (index : Nat) (f : Property → Property) : Registry :=
  r.mapModels
    (fun m => if m.name = name then { m with properties := m.properties.modify index f } else m)
    fun m => by by_cases h : m.name = name <;> simp [h]

/-- The properties of the model `name`. -/
def propertiesOf (r : Registry) (name : String) : List Property :=
  match r.get? name with
  | some m => m.properties
  | none => []

@[simp] theorem names_mapModels (r : Registry) (f : Model → Model)
    (keeps : ∀ m, (f m).name = m.name) : (r.mapModels f keeps).names = r.names := by
  simp [names, mapModels, List.map_map, Function.comp_def, keeps]

@[simp] theorem names_mapProperties (r : Registry) (f : Property → Property) :
    (r.mapProperties f).names = r.names := names_mapModels ..

@[simp] theorem names_modifyAt (r : Registry) (name : String) (index : Nat)
    (f : Property → Property) : (r.modifyAt name index f).names = r.names := names_mapModels ..

end Registry

end ModelSchema
