import ModelSchema.Proofs.Registry.Order

/-!
# First come, first served

Arrays of references are paired one after the other, and each takes the first property that may
point back at its owner. Steps only ever take such properties away. So an array that finds none
will find none later, nor will any array behind it with the same owner and the same model, and
the properties that two such arrays take stand in the order of the arrays.

## Main definitions

* `ForwardReference.Precedes` — the order of the arrays of one owner.
* `Registry.FirstFitRun` — what holds of the pairs made so far and of the arrays that found none.
* `Registry.MissesNoPair`, `Registry.PairsInOrder` — what holds of the pairs of a resolved registry.

## Main statements

* `Registry.propertyAt?_of_pointsBackAt_pairAt` — a step lets no property point back anew.
* `Registry.FirstFitRun.pair`, `Registry.FirstFitRun.skip`, `Registry.FirstFitRun.run` — one step,
  and all of them.
* `Registry.resolve_firstFit` — no pairing is missed, and arrays are paired in order.
-/

namespace ModelSchema

/-- Of one owner, the first array stands before the second. -/
def ForwardReference.Precedes (f g : ForwardReference) : Prop :=
  f.owner = g.owner → f.index < g.index

namespace Registry

variable {r : Registry} {f g : ForwardReference} {back : Nat} {p : Property}

/-- Arrays of references are listed in the order of their properties. -/
theorem pairwise_forwardReferences (r : Registry) :
    r.forwardReferences.Pairwise ForwardReference.Precedes := by
  rw [forwardReferences_eq, List.pairwise_flatMap]
  constructor
  · intro m _
    have indices : (m.properties.zipIdx.map Prod.snd).Pairwise (· < ·) := by
      rw [List.zipIdx_map_snd]
      exact List.pairwise_lt_range'
    refine List.Pairwise.filterMap _ ?_ (List.Pairwise.of_map _ (fun _ _ h => h) indices)
    intro x y hxy a ha b hb
    grind [ForwardReference.Precedes]
  · refine (List.Pairwise.of_map _ (fun _ _ h => h) r.nodup).imp ?_
    intro m m' hne f hf g hg same
    rw [Model.owner_of_mem_forwardReferences hf, Model.owner_of_mem_forwardReferences hg] at same
    exact absurd same hne

/-! ## The first property that may point back -/

theorem backIndex?_eq_none_iff : r.backIndex? f = none ↔
    ∀ index p, r.propertyAt? ⟨f.target, index⟩ = some p → ¬ p.pointsBackAt f.owner := by
  rw [backIndex?, List.findIdx?_eq_none_iff]
  constructor
  · intro h index p hp
    simpa using h p (List.mem_of_getElem? hp)
  · intro h p hp
    obtain ⟨index, hindex⟩ := List.mem_iff_getElem?.1 hp
    simpa using h index p hindex

theorem le_of_backIndex?_eq_some (found : r.backIndex? f = some back) {index : Nat}
    (hp : r.propertyAt? ⟨f.target, index⟩ = some p) (points : p.pointsBackAt f.owner) :
    back ≤ index := by
  obtain ⟨_, -, skipped⟩ := List.findIdx?_eq_some_iff_getElem.1 found
  by_contra before
  obtain ⟨hlt, rfl⟩ := List.getElem?_eq_some_iff.1 hp
  exact skipped index (by omega) points

/-- Arrays of one owner look for the same properties of a model. -/
theorem backIndex?_congr (owner : f.owner = g.owner) (target : f.target = g.target) :
    r.backIndex? f = r.backIndex? g := by
  rw [backIndex?, backIndex?, owner, target]

/-- What may point back after a step stood there before it, and is not what the step took. -/
theorem propertyAt?_of_pointsBackAt_pairAt {fp bp : Property}
    (hf : r.propertyAt? f.place = some fp) (hrel : fp.relation = .unpaired .oneToMany f.target)
    (hb : r.propertyAt? ⟨f.target, back⟩ = some bp) (taken : bp.pointsBackAt f.owner)
    {place : Place} {owner : String} (hp : (r.pairAt f back).propertyAt? place = some p)
    (points : p.pointsBackAt owner) :
    place ≠ ⟨f.target, back⟩ ∧ r.propertyAt? place = some p := by
  have kind := p.kind_of_pointsBackAt points
  rw [propertyAt?_pairAt hf hrel hb taken] at hp
  split at hp
  · obtain rfl := Option.some.inj hp
    simp at kind
  · split at hp
    · obtain rfl := Option.some.inj hp
      simp at kind
    · rename_i other
      exact ⟨other, hp⟩

/-! ## The run -/

/-- What holds of the pairs made so far when the arrays of references in `done` have had their
turn and those in `waiting` have not. -/
structure FirstFitRun (names : List String) (state : Registry × Nat)
    (pairs : List (Place × Place)) (done waiting : List ForwardReference) : Prop
    extends PairingRun names state pairs waiting where
  sorted : (done ++ waiting).Pairwise ForwardReference.Precedes
  /-- Pairs are made in the turn of their array. -/
  exists_done : ∀ x ∈ pairs, ∃ f ∈ done, f.place = x.1 ∧ f.target = x.2.model
  /-- What may still point back at the owner of a pair stands behind the property of the pair. -/
  rest_behind : ∀ x ∈ pairs, ∀ index p, state.1.propertyAt? ⟨x.2.model, index⟩ = some p →
    p.pointsBackAt x.1.model → x.2.index < index
  /-- An array without a partner still finds none, and stands behind those that found one. -/
  missed : ∀ f ∈ done, f.place ∉ pairs.map Prod.fst → state.1.backIndex? f = none ∧
    ∀ x ∈ pairs, x.1.model = f.owner → x.2.model = f.target → x.1.index < f.index
  ordered : ∀ x ∈ pairs, ∀ y ∈ pairs, x.1.model = y.1.model → x.2.model = y.2.model →
    x.1.index < y.1.index → x.2.index < y.2.index

variable {names : List String} {state : Registry × Nat} {pairs : List (Place × Place)}
  {done waiting : List ForwardReference}

/-- The arrays of one owner that had their turn stand before the one whose turn it is. -/
theorem FirstFitRun.index_lt (h : FirstFitRun names state pairs done (f :: waiting))
    (hg : g ∈ done) (owner : g.owner = f.owner) : g.index < f.index := by
  obtain ⟨-, -, across⟩ := List.pairwise_append.1 h.sorted
  exact across g hg f List.mem_cons_self owner

/-- The array of a pair stands before the one of the same owner whose turn it is. -/
theorem FirstFitRun.index_lt_of_mem (h : FirstFitRun names state pairs done (f :: waiting))
    {x : Place × Place} (hx : x ∈ pairs) (owner : x.1.model = f.owner) :
    x.1.index < f.index := by
  obtain ⟨g, hg, place, -⟩ := h.exists_done x hx
  rw [← place] at owner ⊢
  exact h.index_lt hg owner

/-- An array that finds no partner is missed from now on. -/
theorem FirstFitRun.skip (h : FirstFitRun names state pairs done (f :: waiting))
    (none : state.1.backIndex? f = none) :
    FirstFitRun names state pairs (done ++ [f]) waiting where
  toPairingRun := h.toPairingRun.skip
  sorted := by simpa using h.sorted
  exists_done x hx := by
    obtain ⟨g, hg, same⟩ := h.exists_done x hx
    exact ⟨g, List.mem_append_left _ hg, same⟩
  rest_behind := h.rest_behind
  ordered := h.ordered
  missed g hg unpaired := by
    rcases List.mem_append.1 hg with hg | hg
    · exact h.missed g hg unpaired
    · obtain rfl := List.mem_singleton.1 hg
      exact ⟨none, fun x hx owner _ => h.index_lt_of_mem hx owner⟩

/-- An array takes the first property that may point back, which stands behind those that earlier
arrays of its owner took. -/
theorem FirstFitRun.pair (h : FirstFitRun names state pairs done (f :: waiting))
    (found : state.1.backIndex? f = some back) :
    FirstFitRun names (state.1.pairAt f back, state.2 + 1)
      ((f.place, ⟨f.target, back⟩) :: pairs) (done ++ [f]) waiting := by
  obtain ⟨fp, hf, hrel⟩ := h.unpaired f List.mem_cons_self
  obtain ⟨bp, hb, taken⟩ := backIndex?_eq_some found
  -- Whatever may point back now, at any owner, might have done so before.
  have before := fun {place : Place} {p : Property} {owner : String} =>
    @propertyAt?_of_pointsBackAt_pairAt _ _ _ p _ _ hf hrel hb taken place owner
  constructor
  case toPairingRun => exact h.toPairingRun.pair found
  case sorted => simpa using h.sorted
  case exists_done =>
    intro x hx
    rcases List.mem_cons.1 hx with rfl | hx
    · exact ⟨f, by simp, rfl, rfl⟩
    · obtain ⟨g, hg, same⟩ := h.exists_done x hx
      exact ⟨g, List.mem_append_left _ hg, same⟩
  case rest_behind =>
    intro x hx index p hp points
    obtain ⟨other, hp⟩ := before hp points
    rcases List.mem_cons.1 hx with rfl | hx
    · have ne : back ≠ index := fun same => other (same ▸ rfl)
      exact Nat.lt_of_le_of_ne (le_of_backIndex?_eq_some found hp points) ne
    · exact h.rest_behind x hx index p hp points
  case missed =>
    intro g hg unpaired
    rw [List.map_cons, List.mem_cons, not_or] at unpaired
    rcases List.mem_append.1 hg with hg | hg
    · obtain ⟨none, behind⟩ := h.missed g hg unpaired.2
      refine ⟨?_, fun x hx owner target => ?_⟩
      · rw [backIndex?_eq_none_iff] at none ⊢
        exact fun index p hp points => none index p (before hp points).2 points
      · rcases List.mem_cons.1 hx with rfl | hx
        · rw [backIndex?_congr (owner : f.owner = g.owner) target, none] at found
          cases found
        · exact behind x hx owner target
    · exact absurd (List.mem_singleton.1 hg ▸ rfl) unpaired.1
  case ordered =>
    intro x hx y hy owner target
    rcases List.mem_cons.1 hx with rfl | hx <;> rcases List.mem_cons.1 hy with rfl | hy
    · exact fun lt => absurd lt (Nat.lt_irrefl _)
    · intro lt
      exact absurd (h.index_lt_of_mem hy owner.symm) (Nat.not_lt.2 (Nat.le_of_lt lt))
    · intro _
      refine h.rest_behind x hx back bp ?_ ?_
      · rw [target]
        exact hb
      · rw [owner]
        exact taken
    · exact h.ordered x hx y hy owner target

theorem FirstFitRun.run (h : FirstFitRun names state pairs done waiting) :
    ∃ pairs', FirstFitRun names (waiting.foldl pairOne state) pairs' (done ++ waiting) [] := by
  induction waiting generalizing state pairs done with
  | nil => exact ⟨pairs, by simpa using h⟩
  | cons f waiting ih =>
    rw [List.foldl_cons, List.append_cons]
    unfold pairOne
    cases found : state.1.backIndex? f with
    | none => exact ih (h.skip found)
    | some back => exact ih (h.pair found)

theorem FirstFitRun.start (r : Registry) (suffixes : List String) :
    FirstFitRun r.names ((r.markCandidates suffixes).dropUnknown, 0) [] []
      (r.markCandidates suffixes).dropUnknown.forwardReferences where
  toPairingRun := .start r suffixes
  sorted := by simpa using pairwise_forwardReferences _
  exists_done := by simp
  rest_behind := by simp
  missed := by simp
  ordered := by simp

/-! ## Resolved registries -/

end Registry

/-- The model that an array of references refers to. -/
def Property.arrayTarget? (p : Property) : Option String :=
  if p.relation.kind = .oneToMany then some p.relation.target else none

namespace Registry

variable {r : Registry} {f : ForwardReference}

theorem mem_forwardReferences_iff_arrayTarget? :
    f ∈ r.forwardReferences ↔
      (r.propertyAt? f.place).map (·.arrayTarget?) = some (some f.target) := by
  simp only [mem_forwardReferences, Option.map_eq_some_iff, Property.arrayTarget?]
  grind

/-- Pairing makes no arrays of references and takes none away. -/
theorem arrayTarget?_pairOne (state : Registry × Nat) (f : ForwardReference) (place : Place) :
    ((pairOne state f).1.propertyAt? place).map (·.arrayTarget?) =
      (state.1.propertyAt? place).map (·.arrayTarget?) := by
  refine map_propertyAt?_pairOne (fun _ _ => rfl) (fun p field points => ?_) state place
  have kind := p.kind_of_pointsBackAt points
  grind [Property.arrayTarget?]

/-- The arrays of references of a resolved registry are those that waited for a partner. -/
theorem mem_forwardReferences_resolve {suffixes : List String} :
    f ∈ (r.resolve suffixes).1.forwardReferences ↔
      f ∈ (r.markCandidates suffixes).dropUnknown.forwardReferences := by
  have run : ∀ (fs : List ForwardReference) (state : Registry × Nat),
      ((fs.foldl pairOne state).1.propertyAt? f.place).map (·.arrayTarget?) =
        (state.1.propertyAt? f.place).map (·.arrayTarget?) := by
    intro fs
    induction fs with
    | nil => exact fun _ => rfl
    | cons g fs ih => exact fun state => (ih _).trans (arrayTarget?_pairOne state g f.place)
  rw [mem_forwardReferences_iff_arrayTarget?, mem_forwardReferences_iff_arrayTarget?]
  exact iff_of_eq (congrArg (· = _) (run _ _))

/-- Where an array of references has no partner, no property of its model that is named after its
owner could still become one. -/
def MissesNoPair (r : Registry) : Prop :=
  ∀ a ∈ r.models, ∀ f ∈ a.properties, f.relation.kind = .oneToMany → f.relation.field = none →
    ∀ b ∈ r.models, b.name = f.relation.target → ∀ p ∈ b.properties, p.IsNamedAfter a.name →
      p.relation.kind ≠ .none ∧ p.relation.kind ≠ .oneToOne

/-- Of two arrays of references of one owner to the same model, the first has a partner if the
second has one, and its partner stands before that of the second. -/
def PairsInOrder (r : Registry) (partner : r.PairedArray ≃ r.BackReference) : Prop :=
  ∀ a ∈ r.models, ∀ (i j : Nat) (f g : Property),
    a.properties[i]? = some f → a.properties[j]? = some g → i < j →
    f.relation.kind = .oneToMany → g.relation.kind = .oneToMany →
    f.relation.target = g.relation.target → g.relation.field.isSome →
      ∃ x y : r.PairedArray, x.1 = ⟨a.name, i⟩ ∧ y.1 = ⟨a.name, j⟩ ∧
        (partner x).1.model = f.relation.target ∧ (partner y).1.model = f.relation.target ∧
        (partner x).1.index < (partner y).1.index

variable {names : List String} {state : Registry × Nat} {pairs : List (Place × Place)}
  {done : List ForwardReference}

/-- Arrays of references in a pair name their partner. -/
theorem IsPairing.relation_eq_of_mem (h : r.IsPairing pairs) {x : Place × Place} (hx : x ∈ pairs)
    {p : Property} (hp : r.propertyAt? x.1 = some p) :
    p.relation.target = x.2.model ∧ p.relation.field.isSome := by
  obtain ⟨p', _, hp', -, rel, -⟩ := h.partners x hx
  rw [hp] at hp'
  obtain rfl := Option.some.inj hp'
  rw [rel]
  exact ⟨rfl, rfl⟩

/-- An array without a partner has had its turn, and no property may point back at its owner any
more. -/
theorem FirstFitRun.missed_of_field (h : FirstFitRun names state pairs done [])
    (all : ∀ f ∈ state.1.forwardReferences, f ∈ done) {model : String} {index : Nat}
    {f : Property} (hf : state.1.propertyAt? ⟨model, index⟩ = some f)
    (kind : f.relation.kind = .oneToMany) (field : ¬ f.relation.field.isSome) :
    state.1.backIndex? ⟨model, index, f.relation.target⟩ = none ∧
      ∀ x ∈ pairs, x.1.model = model → x.2.model = f.relation.target → x.1.index < index := by
  refine h.missed ⟨model, index, f.relation.target⟩
    (all _ (mem_forwardReferences.2 ⟨f, hf, kind, rfl⟩)) fun mem => ?_
  obtain ⟨x, hx, same⟩ := List.mem_map.1 mem
  exact field (h.pairing.relation_eq_of_mem hx (same ▸ hf)).2

/-- No array misses a property that may point back. -/
theorem FirstFitRun.missesNoPair (h : FirstFitRun names state pairs done [])
    (all : ∀ f ∈ state.1.forwardReferences, f ∈ done) : state.1.MissesNoPair := by
  intro a ha f hf kind field b hb target p hp namesake
  obtain ⟨i, hi⟩ := exists_place ha hf
  obtain ⟨j, hj⟩ := exists_place hb hp
  have none := backIndex?_eq_none_iff.1 (h.missed_of_field all hi kind (by simp [field])).1 j p
    (target ▸ hj)
  rw [Property.pointsBackAt_iff, not_and_or, not_or] at none
  exact none.resolve_left fun other => other namesake

/-- The pairs are in order, and no array without a partner stands before one with a partner. -/
theorem FirstFitRun.pairsInOrder (h : FirstFitRun names state pairs done [])
    (all : ∀ f ∈ state.1.forwardReferences, f ∈ done)
    {partner : state.1.PairedArray ≃ state.1.BackReference}
    (hpartner : ∀ a, (a.1, (partner a).1) ∈ pairs) : state.1.PairsInOrder partner := by
  intro a ha i j f g hi hj before kind kind' target paired
  have atf : state.1.propertyAt? ⟨a.name, i⟩ = some f := propertyAt?_eq_some_iff.2 ⟨a, ha, rfl, hi⟩
  have atg : state.1.propertyAt? ⟨a.name, j⟩ = some g := propertyAt?_eq_some_iff.2 ⟨a, ha, rfl, hj⟩
  let y : state.1.PairedArray := ⟨⟨a.name, j⟩, g, atg, kind', paired⟩
  have modely : (partner y).1.model = f.relation.target :=
    (h.pairing.relation_eq_of_mem (hpartner y) atg).1.symm.trans target.symm
  have earlier : f.relation.field.isSome := by
    by_contra field
    have behind := (h.missed_of_field all atf kind field).2 _ (hpartner y) rfl modely
    exact absurd before (Nat.not_lt.2 (Nat.le_of_lt behind))
  let x : state.1.PairedArray := ⟨⟨a.name, i⟩, f, atf, kind, earlier⟩
  have modelx : (partner x).1.model = f.relation.target :=
    (h.pairing.relation_eq_of_mem (hpartner x) atf).1.symm
  refine ⟨x, y, rfl, rfl, modelx, modely, ?_⟩
  exact h.ordered _ (hpartner x) _ (hpartner y) rfl (modelx.trans modely.symm) before

/-- If the properties of each model have different names, an array of references has only one
partner. -/
theorem Partners.unique (distinct : ∀ m ∈ r.models, (m.properties.map (·.name)).Nodup)
    {forward back back' : Place} (h : r.Partners forward back) (h' : r.Partners forward back') :
    back = back' := by
  obtain ⟨f, b, hf, hb, rel, -⟩ := h
  obtain ⟨f', b', hf', hb', rel', -⟩ := h'
  obtain rfl := Option.some.inj (hf.symm.trans hf')
  rw [rel, Relation.mk.injEq, Option.some.injEq] at rel'
  obtain ⟨-, model, name⟩ := rel'
  obtain ⟨m, hm, hname, hindex⟩ := propertyAt?_eq_some_iff.1 hb
  obtain ⟨m', hm', hname', hindex'⟩ := propertyAt?_eq_some_iff.1 hb'
  obtain rfl := List.inj_on_of_nodup_map r.nodup hm hm' (hname.trans (model.trans hname'.symm))
  have index : back.index = back'.index := by
    have within : back.index < (m.properties.map (·.name)).length := by
      rw [List.length_map]
      exact (List.getElem?_eq_some_iff.1 hindex).1
    refine (List.getElem?_inj within (distinct m hm)).1 ?_
    rw [List.getElem?_map, List.getElem?_map, hindex, hindex', Option.map_some, Option.map_some,
      name]
  cases back
  cases back'
  exact congrArg₂ Place.mk model index

/-- Resolving misses no pairing: an array of references without a partner leaves no property over
that could point back at its owner. The pairs are a one-to-one correspondence, the only one if the
properties of each model have different names, and of two arrays of one owner to the same model the
first is paired if the second is, with a property that stands before the one of the second. -/
theorem resolve_firstFit (r : Registry) (suffixes : List String) :
    let resolved := (r.resolve suffixes).1
    resolved.MissesNoPair ∧
    ∃ partner : resolved.PairedArray ≃ resolved.BackReference,
      (∀ a, resolved.Partners a.1 (partner a).1) ∧
      ((∀ m ∈ r.models, (m.properties.map (·.name)).Nodup) →
        ∀ a back, resolved.Partners a.1 back → back = (partner a).1) ∧
      resolved.PairsInOrder partner := by
  intro resolved
  obtain ⟨pairs, h⟩ := (FirstFitRun.start r suffixes).run
  have all : ∀ f ∈ resolved.forwardReferences,
      f ∈ (r.markCandidates suffixes).dropUnknown.forwardReferences :=
    fun f hf => mem_forwardReferences_resolve.1 hf
  obtain ⟨partner, hpartner⟩ := h.pairing.exists_equiv_mem
  have partners := fun a => h.pairing.partners _ (hpartner a)
  refine ⟨h.missesNoPair all, partner, partners, fun distinct a back other => ?_,
    h.pairsInOrder all hpartner⟩
  refine Partners.unique (fun m hm => ?_) other (partners a)
  obtain ⟨d, hd, -, names⟩ := exists_map_name_of_mem_resolve hm
  exact names ▸ distinct d hd

end Registry

end ModelSchema
