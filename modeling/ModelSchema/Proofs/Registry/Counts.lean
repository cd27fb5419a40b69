import ModelSchema.Proofs.Registry.References

/-!
# The counts of a resolution

References are counted when they are kept or dropped, and pairs when they are made, while later
steps go on to change relations. The counts are those of the result: pairing touches no array of
references but to name its partner, and every step of it finds the models and indices that were
noted down before the first step.

## Main definitions

* `Registry.places`, `Registry.HasPlace` — the places of all properties, and indices in bounds.
* `Registry.PairsInBounds` — the steps of the pairing find everything that they look up.

## Main statements

* `Registry.countP_allProperties_eq_length` — properties are counted by their places.
* `Registry.promoted_resolve`, `Registry.degraded_resolve` — counts of references.
* `Registry.PairingRun.length_eq_countP_back`, `Registry.PairingRun.length_eq_countP_forward` —
  counts of pairs.
* `Registry.pairsInBounds` — no step of the pairing fails to find a property.
* `Registry.resolve_accounts` — all of them for a resolved registry.
-/

namespace ModelSchema.Registry

variable {r : Registry} {suffixes : List String} {place : Place} {p : Property}

/-! ## Places of all properties -/

/-- The places of all properties, in order. -/
def places (r : Registry) : List Place :=
  r.models.flatMap fun m => (List.range m.properties.length).map (⟨m.name, ·⟩)

/-- The model of the place is there, and the index is one of its properties. -/
def HasPlace (r : Registry) (place : Place) : Prop :=
  ∃ m, r.get? place.model = some m ∧ place.index < m.properties.length

theorem hasPlace_iff : r.HasPlace place ↔ ∃ p, r.propertyAt? place = some p := by
  constructor
  · rintro ⟨m, hm, within⟩
    obtain ⟨mem, name⟩ := get?_eq_some_iff.1 hm
    exact ⟨_, propertyAt?_eq_some_iff.2 ⟨m, mem, name, List.getElem?_eq_getElem within⟩⟩
  · rintro ⟨p, hp⟩
    obtain ⟨m, mem, name, hindex⟩ := propertyAt?_eq_some_iff.1 hp
    exact ⟨m, get?_eq_some_iff.2 ⟨mem, name⟩, (List.getElem?_eq_some_iff.1 hindex).1⟩

/-- A change of a property takes no place away. -/
theorem HasPlace.modifyAt (h : r.HasPlace place) (name : String) (index : Nat)
    (f : Property → Property) : (r.modifyAt name index f).HasPlace place := by
  rw [hasPlace_iff] at h ⊢
  obtain ⟨p, hp⟩ := h
  rw [propertyAt?_modifyAt, hp]
  split
  · exact ⟨f p, rfl⟩
  · exact ⟨p, rfl⟩

theorem mem_places_iff : place ∈ r.places ↔ ∃ p, r.propertyAt? place = some p := by
  rw [← hasPlace_iff]
  simp only [places, List.mem_flatMap, List.mem_map, List.mem_range]
  constructor
  · rintro ⟨m, hm, index, within, rfl⟩
    exact ⟨m, get?_of_mem hm, within⟩
  · rintro ⟨m, hm, within⟩
    obtain ⟨mem, name⟩ := get?_eq_some_iff.1 hm
    exact ⟨m, mem, place.index, within, by rw [name]⟩

theorem nodup_places (r : Registry) : r.places.Nodup := by
  rw [places, List.nodup_flatMap]
  constructor
  · intro m _
    refine List.nodup_range.map fun i j same => ?_
    injection same
  · refine (List.Pairwise.of_map _ (fun _ _ h => h) r.nodup).imp ?_
    intro m m' hne place hm hm'
    obtain ⟨i, -, rfl⟩ := List.mem_map.1 hm
    obtain ⟨j, -, same⟩ := List.mem_map.1 hm'
    injection same with name
    exact hne name.symm

/-- The properties in order are those at the places in order. -/
theorem map_propertyAt?_places (r : Registry) :
    r.places.map r.propertyAt? = r.allProperties.map some := by
  rw [places, allProperties, List.map_flatMap, List.map_flatMap]
  refine List.flatMap_congr fun m hm => ?_
  have own : r.propertiesOf m.name = m.properties := by rw [propertiesOf, get?_of_mem hm]
  refine List.ext_getElem? fun i => ?_
  by_cases within : i < m.properties.length
  · simp [propertyAt?, own, within]
  · simp [within]

/-- To count properties is to list their places, each once. -/
theorem countP_allProperties_eq_length {listed : List Place} (nodup : listed.Nodup)
    {φ : Property → Bool}
    (mem : ∀ place, place ∈ listed ↔ ∃ p, r.propertyAt? place = some p ∧ φ p) :
    r.allProperties.countP φ = listed.length := by
  have perm : (r.places.filter fun place => (r.propertyAt? place).any φ).Perm listed := by
    refine (List.perm_ext_iff_of_nodup (r.nodup_places.filter _) nodup).2 fun place => ?_
    rw [List.mem_filter, mem_places_iff, Option.any_eq_true, mem]
    grind
  calc r.allProperties.countP φ
      = (r.allProperties.map some).countP (Option.any φ) := by rw [List.countP_map]; rfl
    _ = r.places.countP fun place => (r.propertyAt? place).any φ := by
        rw [← map_propertyAt?_places, List.countP_map]; rfl
    _ = listed.length := by rw [List.countP_eq_length_filter, perm.length_eq]

/-! ## References -/

/-- The relation that a spelling suggests is that of the marked property. -/
theorem isPresent_mark_and (suffixes : List String) (p : Property) (φ : String → Bool) :
    (φ (p.mark suffixes).relation.target && (p.mark suffixes).relation.isPresent) =
      (Spelling.candidate? suffixes p.rawType).any (φ ·.2) := by
  unfold Property.mark
  split
  · rename_i kind target candidate
    rcases Spelling.kind_of_candidate? candidate with rfl | rfl <;>
      simp [Relation.unpaired, Relation.isPresent, candidate]
  · rename_i candidate
    simp [Relation.absent, Relation.isPresent, candidate]

theorem allProperties_markCandidates (r : Registry) (suffixes : List String) :
    (r.markCandidates suffixes).allProperties = r.allProperties.map (·.mark suffixes) := by
  simp [allProperties, markCandidates, mapProperties, mapModels, List.map_flatMap,
    List.flatMap_map]

/-- Marked references of one sort are counted by what their spellings suggest. -/
theorem countP_references (r : Registry) (suffixes : List String) (φ : String → Bool) :
    ((r.markCandidates suffixes).allProperties.filter (·.relation.isPresent)).countP
        (fun p => φ p.relation.target) =
      r.allProperties.countP fun p => (Spelling.candidate? suffixes p.rawType).any (φ ·.2) := by
  rw [List.countP_filter, allProperties_markCandidates, List.countP_map]
  refine List.countP_congr fun p _ => ?_
  rw [Function.comp_apply, isPresent_mark_and]

theorem promoted_resolve (r : Registry) (suffixes : List String) :
    (r.resolve suffixes).2.promoted = r.allProperties.countP fun p =>
      (Spelling.candidate? suffixes p.rawType).any (r.names.contains ·.2) := by
  rw [← countP_references r suffixes r.names.contains]
  simp [resolve, markCandidates]

theorem degraded_resolve (r : Registry) (suffixes : List String) :
    (r.resolve suffixes).2.degraded = r.allProperties.countP fun p =>
      (Spelling.candidate? suffixes p.rawType).any (!r.names.contains ·.2) := by
  let references := (r.markCandidates suffixes).allProperties.filter (·.relation.isPresent)
  have parts := List.length_eq_countP_add_countP (l := references)
    fun p => r.names.contains p.relation.target
  have others : references.countP (fun p => decide ¬ r.names.contains p.relation.target) =
      references.countP fun p => !r.names.contains p.relation.target := by
    refine List.countP_congr fun p _ => ?_
    simp
  rw [← countP_references r suffixes (!r.names.contains ·), ← others]
  have counted : (r.resolve suffixes).2.degraded = references.length -
      references.countP fun p => r.names.contains p.relation.target := by
    simp [resolve, references, markCandidates]
  omega

/-! ## Pairs -/

section Pairs

variable {names : List String} {state : Registry × Nat} {pairs : List (Place × Place)}
  {waiting : List ForwardReference}

/-- There are as many pairs as properties that point back. -/
theorem PairingRun.length_eq_countP_back (h : PairingRun names state pairs waiting) :
    pairs.length = state.1.allProperties.countP (·.relation.kind == .manyToOne) := by
  rw [countP_allProperties_eq_length h.pairing.nodup_back, List.length_map]
  intro place
  constructor
  · intro mem
    obtain ⟨x, hx, rfl⟩ := List.mem_map.1 mem
    obtain ⟨_, b, _, hb, _, relation⟩ := h.pairing.partners x hx
    exact ⟨b, hb, by simp [relation]⟩
  · rintro ⟨p, hp, kind⟩
    exact h.pairing.back_mem place p hp (by simpa using kind)

/-- There are as many pairs as arrays of references that name a partner. -/
theorem PairingRun.length_eq_countP_forward (h : PairingRun names state pairs waiting) :
    pairs.length = state.1.allProperties.countP fun p =>
      p.relation.kind == .oneToMany && p.relation.field.isSome := by
  rw [countP_allProperties_eq_length h.pairing.nodup_forward, List.length_map]
  intro place
  constructor
  · intro mem
    obtain ⟨x, hx, rfl⟩ := List.mem_map.1 mem
    obtain ⟨f, _, hf, _, relation, _⟩ := h.pairing.partners x hx
    exact ⟨f, hf, by simp [relation]⟩
  · rintro ⟨p, hp, paired⟩
    obtain ⟨kind, field⟩ : p.relation.kind = .oneToMany ∧ p.relation.field.isSome := by
      simpa using paired
    exact h.pairing.forward_mem place p hp kind field

end Pairs

/-- When an array of references has its turn, its model is there and its index in bounds. If a
property may point back at it, the model of that property is there and the index in bounds, the
array still has its place behind the change of that property, and the two become partners, which
is counted. -/
def PairsInBounds (r : Registry) (suffixes : List String) : Prop :=
  ∀ done f waiting,
    (r.markCandidates suffixes).dropUnknown.forwardReferences = done ++ f :: waiting →
    let state := done.foldl pairOne ((r.markCandidates suffixes).dropUnknown, 0)
    state.1.HasPlace f.place ∧
    ∀ back, state.1.backIndex? f = some back →
      state.1.HasPlace ⟨f.target, back⟩ ∧
      (∀ change, (state.1.modifyAt f.target back change).HasPlace f.place) ∧
      (pairOne state f).1.Partners f.place ⟨f.target, back⟩ ∧
      (pairOne state f).2 = state.2 + 1

/-- What was noted down before the first step is found in every step. -/
theorem pairsInBounds (r : Registry) (suffixes : List String) : r.PairsInBounds suffixes := by
  intro done f waiting turn state
  have run := PairingRun.start r suffixes
  rw [turn] at run
  obtain ⟨pairs, run⟩ := run.run_append
  obtain ⟨p, hp, -⟩ := run.unpaired f List.mem_cons_self
  have array : state.1.HasPlace f.place := hasPlace_iff.2 ⟨p, hp⟩
  refine ⟨array, fun back found => ?_⟩
  obtain ⟨b, hb, -⟩ := backIndex?_eq_some found
  have step : pairOne state f = (state.1.pairAt f back, state.2 + 1) := by
    rw [pairOne, found]
  rw [step]
  refine ⟨hasPlace_iff.2 ⟨b, hb⟩, fun change => array.modifyAt _ _ change, ?_, rfl⟩
  exact (run.pair found).pairing.partners _ List.mem_cons_self

/-! ## All counts -/

/-- Resolving counts the references to models of the registry, the references to anything else, and
the pairs, of which there are as many as properties that point back and as arrays of references
with a partner. Arrays of references are the spelled ones in the end, and so are single references
but for the properties that point back. No step of the pairing fails to find what it looks up. -/
theorem resolve_accounts (r : Registry) (suffixes : List String) :
    let resolved := (r.resolve suffixes).1
    let counts := (r.resolve suffixes).2
    let candidate? (p : Property) := Spelling.candidate? suffixes p.rawType
    counts.promoted = r.allProperties.countP (fun p =>
      (candidate? p).any (r.names.contains ·.2)) ∧
    counts.degraded = r.allProperties.countP (fun p =>
      (candidate? p).any (!r.names.contains ·.2)) ∧
    counts.paired = resolved.allProperties.countP (·.relation.kind == .manyToOne) ∧
    counts.paired = resolved.allProperties.countP (fun p =>
      p.relation.kind == .oneToMany && p.relation.field.isSome) ∧
    resolved.unrelated = r.unrelated ∧
    (∀ m ∈ resolved.models, ∀ p ∈ m.properties, ∀ target,
      (p.relation.kind = .oneToMany ∧ p.relation.target = target ↔
        candidate? p = some (.oneToMany, target) ∧ target ∈ r.names) ∧
      (p.relation.kind ≠ .manyToOne →
        (p.relation.kind = .oneToOne ∧ p.relation.target = target ↔
          candidate? p = some (.oneToOne, target) ∧ target ∈ r.names))) ∧
    r.PairsInBounds suffixes := by
  obtain ⟨pairs, run⟩ := exists_isPairing_resolve r suffixes
  refine ⟨promoted_resolve r suffixes, degraded_resolve r suffixes,
    run.count.trans run.length_eq_countP_back, run.count.trans run.length_eq_countP_forward,
    unrelated_resolve r suffixes, ?_, pairsInBounds r suffixes⟩
  intro m hm p hp target
  have origin := hasOrigin_of_mem_resolve hm hp
  exact ⟨origin.oneToMany_iff, fun forward => origin.oneToOne_iff forward⟩

end ModelSchema.Registry
