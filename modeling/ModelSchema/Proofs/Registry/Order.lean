import ModelSchema.Proofs.Registry.Origin
import ModelSchema.Schema.Block

/-!
# The order of models

Arrays of references are paired in the order of their models, and each pairing takes a property
away from the later ones. If no name lets a property point back at two models, the arrays of
different models never compete for a property, so their steps commute: the relations, the counts
and the blocks of a resolved registry do not depend on the order of its models.

## Main definitions

* `backNames`, `Registry.HasApartNames` — the names of properties that may point back at a model,
  and registries in which no name does so at two models.
* `Registry.nameAt?`, `Registry.IsArrayAt` — what the steps keep at every place.

## Main statements

* `Registry.map_propertyAt?_pairOne` — what one step keeps.
* `Registry.pairOne_comm` — steps for different owners commute.
* `foldl_flatMap_eq_of_perm` — blocks of commuting steps can be made in any order.
* `Registry.perm_resolve`, `Registry.resolve_reordered` — resolving a reordered registry.
-/

namespace ModelSchema

/-- The names in lower case by which a property may point back at a model. -/
def backNames (model : String) : List String :=
  [Text.lowerOf model, Text.lowerOf model ++ "id"]

theorem Property.isNamedAfter_iff_mem {p : Property} {model : String} :
    p.IsNamedAfter model ↔ Text.lowerOf p.name ∈ backNames model := by
  simp [IsNamedAfter, backNames]

/-- A property is named after one of two models at most if they share no name. -/
theorem Property.IsNamedAfter.of_disjoint {p : Property} {owner owner' : String}
    (apart : (backNames owner).Disjoint (backNames owner')) (h : p.IsNamedAfter owner) :
    ¬ p.IsNamedAfter owner' := fun h' =>
  apart (Property.isNamedAfter_iff_mem.1 h) (Property.isNamedAfter_iff_mem.1 h')

namespace Registry

variable {r : Registry} {state : Registry × Nat} {f g : ForwardReference}

/-- No name lets a property point back at two models. -/
def HasApartNames (r : Registry) : Prop :=
  ∀ a ∈ r.names, ∀ b ∈ r.names, a ≠ b → (backNames a).Disjoint (backNames b)

/-! ## One step -/

/-- A step keeps whatever a new partner and pointing back at the owner keep. -/
theorem map_propertyAt?_pairOne {α : Type} {φ : Property → α}
    (withField : ∀ p field, φ { p with relation := { p.relation with field } } = φ p)
    (pointBack : ∀ p field, p.pointsBackAt g.owner →
      φ { p with relation := ⟨.manyToOne, g.owner, field⟩ } = φ p)
    (state : Registry × Nat) (place : Place) :
    ((pairOne state g).1.propertyAt? place).map φ = (state.1.propertyAt? place).map φ := by
  unfold pairOne
  cases found : state.1.backIndex? g with
  | none => rfl
  | some back =>
    obtain ⟨b, hb, points⟩ := backIndex?_eq_some found
    simp only [pairAt]
    split
    · rw [map_propertyAt?_modifyAt fun p _ => withField p _, map_propertyAt?_modifyAt]
      intro p hp
      obtain rfl := Option.some.inj (hb.symm.trans hp)
      exact pointBack b _ points
    · rfl

/-- The name of the property at a place. -/
def nameAt? (r : Registry) (place : Place) : Option String := (r.propertyAt? place).map (·.name)

theorem nameAt?_pairOne (state : Registry × Nat) (g : ForwardReference) (place : Place) :
    (pairOne state g).1.nameAt? place = state.1.nameAt? place :=
  map_propertyAt?_pairOne (fun _ _ => rfl) (fun _ _ _ => rfl) state place

/-- An array of references stands at the place. -/
def IsArrayAt (r : Registry) (place : Place) : Prop :=
  (r.propertyAt? place).map (·.relation.kind == .oneToMany) = some true

/-- No array of references goes away in a step. -/
theorem IsArrayAt.pairOne {place : Place} (h : state.1.IsArrayAt place) (g : ForwardReference) :
    (pairOne state g).1.IsArrayAt place := by
  rw [IsArrayAt, map_propertyAt?_pairOne (fun _ _ => rfl), h]
  intro p field points
  have kind := p.kind_of_pointsBackAt points
  grind

/-- An array of references points back at nothing. -/
theorem IsArrayAt.ne_of_pointsBackAt {place place' : Place} {p : Property} {owner : String}
    (h : r.IsArrayAt place) (hp : r.propertyAt? place' = some p) (points : p.pointsBackAt owner) :
    place ≠ place' := by
  rintro rfl
  have array : p.relation.kind = .oneToMany := by simpa [IsArrayAt, hp] using h
  have kind := p.kind_of_pointsBackAt points
  simp [array] at kind

theorem IsArrayAt.exists_nameAt? {place : Place} (h : r.IsArrayAt place) :
    ∃ name, r.nameAt? place = some name := by
  obtain ⟨p, hp, -⟩ := Option.map_eq_some_iff.1 h
  exact ⟨p.name, by rw [nameAt?, hp, Option.map_some]⟩

/-- A step for one owner leaves what may point back at another one. -/
theorem backIndex?_pairOne (apart : (backNames g.owner).Disjoint (backNames f.owner))
    (state : Registry × Nat) : (pairOne state g).1.backIndex? f = state.1.backIndex? f := by
  have kept : ∀ place, ((pairOne state g).1.propertyAt? place).map (·.pointsBackAt f.owner) =
      (state.1.propertyAt? place).map (·.pointsBackAt f.owner) := by
    refine map_propertyAt?_pairOne (fun _ _ => rfl) (fun p field points => ?_) state
    have other : ¬ p.IsNamedAfter f.owner :=
      (Property.pointsBackAt_iff.1 points).1.of_disjoint apart
    have before : ¬ p.pointsBackAt f.owner := fun h => other (Property.pointsBackAt_iff.1 h).1
    have after : ¬ Property.pointsBackAt f.owner
        { p with relation := ⟨.manyToOne, g.owner, field⟩ } :=
      fun h => other (Property.pointsBackAt_iff.1 h).1
    rw [Bool.eq_false_iff.2 before, Bool.eq_false_iff.2 after]
  have flags : ((pairOne state g).1.propertiesOf f.target).map (·.pointsBackAt f.owner) =
      (state.1.propertiesOf f.target).map (·.pointsBackAt f.owner) := by
    refine List.ext_getElem? fun index => ?_
    rw [List.getElem?_map, List.getElem?_map]
    exact kept ⟨f.target, index⟩
  have same := congrArg (List.findIdx? id) flags
  rwa [List.findIdx?_map, List.findIdx?_map] at same

theorem pairOne_of_none (h : state.1.backIndex? f = none) : pairOne state f = state := by
  rw [pairOne, h]

/-- A step that finds a partner, by the names at the two places. -/
theorem pairOne_of_some {back : Nat} {name partner : String} (h : state.1.backIndex? f = some back)
    (hf : state.1.nameAt? f.place = some name)
    (hb : state.1.nameAt? ⟨f.target, back⟩ = some partner) :
    pairOne state f =
      ((state.1.modifyAt f.target back fun p =>
          { p with relation := ⟨.manyToOne, f.owner, some name⟩ }).modifyAt f.owner f.index
        fun p => { p with relation := { p.relation with field := some partner } },
        state.2 + 1) := by
  obtain ⟨fp, hfp, rfl⟩ := Option.map_eq_some_iff.1 hf
  obtain ⟨bp, hbp, rfl⟩ := Option.map_eq_some_iff.1 hb
  rw [pairOne, h]
  simp only [pairAt]
  rw [show (state.1.propertiesOf f.owner)[f.index]? = some fp from hfp,
    show (state.1.propertiesOf f.target)[back]? = some bp from hbp]

/-- Steps for different owners commute if no name lets a property point back at both: they find
the same partners in either order, and the places that they change are different ones. -/
theorem pairOne_comm (hf : state.1.IsArrayAt f.place) (hg : state.1.IsArrayAt g.place)
    (owners : f.owner ≠ g.owner) (apart : (backNames f.owner).Disjoint (backNames g.owner)) :
    pairOne (pairOne state f) g = pairOne (pairOne state g) f := by
  have apart' : (backNames g.owner).Disjoint (backNames f.owner) := fun _ hg hf => apart hf hg
  have keepsF := backIndex?_pairOne apart' state
  have keepsG := backIndex?_pairOne apart state
  cases foundF : state.1.backIndex? f with
  | none => rw [pairOne_of_none foundF, pairOne_of_none (keepsF.trans foundF)]
  | some backF =>
    cases foundG : state.1.backIndex? g with
    | none => rw [pairOne_of_none foundG, pairOne_of_none (keepsG.trans foundG)]
    | some backG =>
      obtain ⟨bf, hbf, pointsF⟩ := backIndex?_eq_some foundF
      obtain ⟨bg, hbg, pointsG⟩ := backIndex?_eq_some foundG
      obtain ⟨nameF, hnameF⟩ := hf.exists_nameAt?
      obtain ⟨nameG, hnameG⟩ := hg.exists_nameAt?
      have partnerF : state.1.nameAt? ⟨f.target, backF⟩ = some bf.name := by
        rw [nameAt?, hbf, Option.map_some]
      have partnerG : state.1.nameAt? ⟨g.target, backG⟩ = some bg.name := by
        rw [nameAt?, hbg, Option.map_some]
      have forwards : f.place ≠ g.place := fun same => owners (congrArg Place.model same)
      have backs : (⟨f.target, backF⟩ : Place) ≠ ⟨g.target, backG⟩ := by
        intro same
        rw [same, hbg] at hbf
        obtain rfl := Option.some.inj hbf
        exact (Property.pointsBackAt_iff.1 pointsF).1.of_disjoint apart
          (Property.pointsBackAt_iff.1 pointsG).1
      rw [pairOne_of_some (keepsG.trans foundG) ((nameAt?_pairOne ..).trans hnameG)
          ((nameAt?_pairOne ..).trans partnerG),
        pairOne_of_some (keepsF.trans foundF) ((nameAt?_pairOne ..).trans hnameF)
          ((nameAt?_pairOne ..).trans partnerF),
        pairOne_of_some foundF hnameF partnerF, pairOne_of_some foundG hnameG partnerG]
      simp only
      -- The two changes for `f` move behind the two for `g`, one past one.
      rw [modifyAt_comm (hf.ne_of_pointsBackAt hbg pointsG), modifyAt_comm forwards,
        modifyAt_comm backs, modifyAt_comm (hg.ne_of_pointsBackAt hbf pointsF).symm]

end Registry

/-! ## Blocks of commuting steps -/

section Blocks

variable {σ α β : Type} {step : σ → α → σ} {Inv : σ → Prop}

/-- A step that commutes with each step of a block commutes with the block. -/
theorem foldl_step_comm (keeps : ∀ s x, Inv s → Inv (step s x)) {x : α} {ys : List α}
    (comm : ∀ y ∈ ys, ∀ s, Inv s → step (step s x) y = step (step s y) x) {s : σ} (h : Inv s) :
    ys.foldl step (step s x) = step (ys.foldl step s) x := by
  induction ys generalizing s with
  | nil => rfl
  | cons y ys ih =>
    rw [List.foldl_cons, List.foldl_cons, comm y List.mem_cons_self s h]
    exact ih (fun y hy => comm y (List.mem_cons_of_mem _ hy)) (keeps s y h)

/-- Blocks commute if each step of the one commutes with each step of the other. -/
theorem foldl_foldl_comm (keeps : ∀ s x, Inv s → Inv (step s x)) {xs ys : List α}
    (comm : ∀ x ∈ xs, ∀ y ∈ ys, ∀ s, Inv s → step (step s x) y = step (step s y) x) {s : σ}
    (h : Inv s) : ys.foldl step (xs.foldl step s) = xs.foldl step (ys.foldl step s) := by
  induction xs generalizing s with
  | nil => rfl
  | cons x xs ih =>
    rw [List.foldl_cons, List.foldl_cons, ← foldl_step_comm keeps (comm x List.mem_cons_self) h]
    exact ih (fun x hx => comm x (List.mem_cons_of_mem _ hx)) (keeps s x h)

variable (Inv) in
/-- Blocks can be made in any order if they commute. -/
theorem foldl_flatMap_eq_of_perm (keeps : ∀ s x, Inv s → Inv (step s x)) {block : β → List α}
    {ms ms' : List β} (reordered : ms.Perm ms')
    (comm : ∀ m ∈ ms, ∀ m' ∈ ms, m ≠ m' → ∀ x ∈ block m, ∀ y ∈ block m',
      ∀ s, Inv s → step (step s x) y = step (step s y) x) {s : σ} (h : Inv s) :
    (ms.flatMap block).foldl step s = (ms'.flatMap block).foldl step s := by
  induction reordered generalizing s with
  | nil => rfl
  | cons m p ih =>
    rw [List.flatMap_cons, List.flatMap_cons, List.foldl_append, List.foldl_append]
    have kept : Inv ((block m).foldl step s) :=
      List.foldlRecOn (motive := Inv) _ step h fun s hs x _ => keeps s x hs
    refine ih (fun a ha b hb => ?_) kept
    exact comm a (List.mem_cons_of_mem _ ha) b (List.mem_cons_of_mem _ hb)
  | swap m m' ms =>
    by_cases same : m = m'
    · rw [same]
    · have blocks := foldl_foldl_comm keeps
        (comm m (by simp) m' (by simp) same) h
      simp only [List.flatMap_cons, List.foldl_append, blocks]
  | trans p _ ih ih' =>
    refine (ih comm h).trans (ih' (fun a ha b hb => ?_) h)
    exact comm a (p.mem_iff.2 ha) b (p.mem_iff.2 hb)

end Blocks

/-! ## Reordered registries -/

/-- The arrays of references of one model, in order. -/
def Model.forwardReferences (m : Model) : List ForwardReference :=
  m.properties.zipIdx.filterMap fun (p, index) =>
    if p.relation.kind = .oneToMany then some ⟨m.name, index, p.relation.target⟩ else none

theorem Model.owner_of_mem_forwardReferences {m : Model} {f : ForwardReference}
    (h : f ∈ m.forwardReferences) : f.owner = m.name := by
  obtain ⟨⟨p, index⟩, -, hf⟩ := List.mem_filterMap.1 h
  simp only [Option.ite_none_right_eq_some, Option.some.injEq] at hf
  obtain ⟨-, rfl⟩ := hf
  rfl

theorem Property.keepKnown_congr {names names' : List String}
    (h : ∀ name, names.contains name = names'.contains name) (p : Property) :
    p.keepKnown names = p.keepKnown names' := by
  rw [keepKnown, keepKnown, h]

/-- A block looks up other models by their names only. -/
theorem Model.block_congr {r r' : Registry} (h : ∀ name, r.get? name = r'.get? name) (m : Model)
    (includeDocs : Bool) : m.block r includeDocs = m.block r' includeDocs := by
  simp only [block, Property.entries, Property.fields, h]

namespace Registry

variable {r r' : Registry} {state state' : Registry × Nat}

theorem forwardReferences_eq (r : Registry) :
    r.forwardReferences = r.models.flatMap Model.forwardReferences := rfl

theorem get?_eq_of_perm (h : r.models.Perm r'.models) (name : String) :
    r.get? name = r'.get? name := by
  refine Option.ext fun m => ?_
  rw [get?_eq_some_iff, get?_eq_some_iff, h.mem_iff]

theorem propertiesOf_eq_of_perm (h : r.models.Perm r'.models) (name : String) :
    r.propertiesOf name = r'.propertiesOf name := by
  rw [propertiesOf, propertiesOf, get?_eq_of_perm h]

theorem contains_names_eq_of_perm (h : r.models.Perm r'.models) (name : String) :
    r.names.contains name = r'.names.contains name :=
  (h.map _).contains_eq

theorem perm_markCandidates (h : r.models.Perm r'.models) (suffixes : List String) :
    (r.markCandidates suffixes).models.Perm (r'.markCandidates suffixes).models :=
  h.map _

theorem perm_dropUnknown (h : r.models.Perm r'.models) :
    r.dropUnknown.models.Perm r'.dropUnknown.models := by
  have keeps := funext (Property.keepKnown_congr (contains_names_eq_of_perm h))
  rw [dropUnknown, dropUnknown, keeps]
  exact h.map _

/-- A step does the same in a reordered registry. -/
theorem perm_pairOne (h : state.1.models.Perm state'.1.models) (count : state.2 = state'.2)
    (f : ForwardReference) :
    (pairOne state f).1.models.Perm (pairOne state' f).1.models ∧
      (pairOne state f).2 = (pairOne state' f).2 := by
  have back : state.1.backIndex? f = state'.1.backIndex? f := by
    rw [backIndex?, backIndex?, propertiesOf_eq_of_perm h]
  unfold pairOne pairAt
  rw [back, propertiesOf_eq_of_perm h, propertiesOf_eq_of_perm h]
  split
  · refine ⟨?_, congrArg (· + 1) count⟩
    simp only
    split
    · exact (h.map _).map _
    · exact h
  · exact ⟨h, count⟩

theorem perm_foldl_pairOne (h : state.1.models.Perm state'.1.models) (count : state.2 = state'.2)
    (fs : List ForwardReference) :
    (fs.foldl pairOne state).1.models.Perm (fs.foldl pairOne state').1.models ∧
      (fs.foldl pairOne state).2 = (fs.foldl pairOne state').2 := by
  induction fs generalizing state state' with
  | nil => exact ⟨h, count⟩
  | cons f fs ih =>
    obtain ⟨models, counts⟩ := perm_pairOne h count f
    exact ih models counts

/-- In any order of the models, the same arrays of references find the same partners. -/
theorem perm_pairReferences (h : r.models.Perm r'.models) (apart : r.HasApartNames) :
    r.pairReferences.1.models.Perm r'.pairReferences.1.models ∧
      r.pairReferences.2 = r'.pairReferences.2 := by
  let Arrays (state : Registry × Nat) : Prop :=
    ∀ f ∈ r.forwardReferences, state.1.IsArrayAt f.place
  have start : Arrays (r, 0) := by
    intro f hf
    obtain ⟨p, hp, kind, -⟩ := mem_forwardReferences.1 hf
    simp [IsArrayAt, hp, kind]
  have keeps : ∀ state g, Arrays state → Arrays (pairOne state g) :=
    fun state g arrays f hf => (arrays f hf).pairOne g
  have comm : ∀ m ∈ r.models, ∀ m' ∈ r.models, m ≠ m' → ∀ f ∈ m.forwardReferences,
      ∀ g ∈ m'.forwardReferences, ∀ state, Arrays state →
        pairOne (pairOne state f) g = pairOne (pairOne state g) f := by
    intro m hm m' hm' ne f hf g hg state arrays
    have owners : m.name ≠ m'.name := fun same => ne (List.inj_on_of_nodup_map r.nodup hm hm' same)
    have disjoint := apart m.name (mem_names_iff.2 ⟨m, hm, rfl⟩) m'.name
      (mem_names_iff.2 ⟨m', hm', rfl⟩) owners
    rw [← Model.owner_of_mem_forwardReferences hf,
      ← Model.owner_of_mem_forwardReferences hg] at owners disjoint
    exact pairOne_comm (arrays f (List.mem_flatMap.2 ⟨m, hm, hf⟩))
      (arrays g (List.mem_flatMap.2 ⟨m', hm', hg⟩)) owners disjoint
  have sameRun : r.pairReferences = r'.forwardReferences.foldl pairOne (r, 0) := by
    rw [pairReferences, forwardReferences_eq, forwardReferences_eq]
    exact foldl_flatMap_eq_of_perm Arrays keeps h comm start
  rw [sameRun]
  exact @perm_foldl_pairOne (r, 0) (r', 0) h rfl r'.forwardReferences

theorem perm_resolve (h : r.models.Perm r'.models) (apart : r.HasApartNames)
    (suffixes : List String) :
    (r.resolve suffixes).1.models.Perm (r'.resolve suffixes).1.models ∧
      (r.resolve suffixes).2 = (r'.resolve suffixes).2 := by
  have marked := perm_markCandidates h suffixes
  have known : (r.markCandidates suffixes).dropUnknown.HasApartNames := by
    rw [HasApartNames, dropUnknown, markCandidates, names_mapProperties, names_mapProperties]
    exact apart
  obtain ⟨models, paired⟩ := perm_pairReferences (perm_dropUnknown marked) known
  have references : ((r.markCandidates suffixes).allProperties.filter (·.relation.isPresent)).Perm
      ((r'.markCandidates suffixes).allProperties.filter (·.relation.isPresent)) :=
    (marked.flatMap_right _).filter _
  refine ⟨models, ?_⟩
  simp only [resolve, paired, references.length_eq, contains_names_eq_of_perm marked,
    references.countP_eq]

/-- The order of the models makes no difference: if no name lets a property point back at two
models, then in any order of the models resolving does the same number of things, and each model
has the same properties with the same relations, and the same block. -/
theorem resolve_reordered (reordered : r.models.Perm r'.models) (apart : r.HasApartNames)
    (suffixes : List String) :
    (r.resolve suffixes).2 = (r'.resolve suffixes).2 ∧
    ∀ m ∈ r.models, ∃ resolved,
      (r.resolve suffixes).1.get? m.name = some resolved ∧
      (r'.resolve suffixes).1.get? m.name = some resolved ∧
      ∀ includeDocs, resolved.block (r.resolve suffixes).1 includeDocs =
        resolved.block (r'.resolve suffixes).1 includeDocs := by
  obtain ⟨models, counts⟩ := perm_resolve reordered apart suffixes
  have same := get?_eq_of_perm models
  refine ⟨counts, fun m hm => ?_⟩
  have known : m.name ∈ (r.resolve suffixes).1.names := by
    rw [names_resolve]
    exact mem_names_iff.2 ⟨m, hm, rfl⟩
  obtain ⟨resolved, hresolved, name⟩ := mem_names_iff.1 known
  have found : (r.resolve suffixes).1.get? m.name = some resolved :=
    get?_eq_some_iff.2 ⟨hresolved, name⟩
  exact ⟨resolved, found, (same m.name).symm.trans found, resolved.block_congr same⟩

end Registry

/-- A model with arrays of itself and of the other model, and a property that points back at each
of them. -/
def Model.member : Model where
  name := "Member"
  sourceFile := "member.ts"
  properties := [.declared "visits" "Visit[]" ⟨.json, false⟩,
    .declared "visit" "Visit" ⟨.string, false⟩, .declared "friends" "Member[]" ⟨.json, false⟩,
    .declared "memberId" "string" ⟨.string, false⟩]

/-- A model with two arrays of the other one and one property that points back. -/
def Model.visit : Model where
  name := "Visit"
  sourceFile := "visit.ts"
  properties := [.declared "hosts" "Member[]" ⟨.json, false⟩,
    .declared "guests" "Member[]" ⟨.json, false⟩, .declared "MEMBER" "Member" ⟨.string, false⟩]

def Registry.membersFirst : Registry where
  models := [.member, .visit]
  nodup := by decide

def Registry.visitsFirst : Registry where
  models := [.visit, .member]
  nodup := by decide

/-- Of four arrays three find a partner, whichever model comes first. -/
theorem Registry.resolve_visitsFirst :
    membersFirst.models.Perm visitsFirst.models ∧ membersFirst.HasApartNames ∧
    (membersFirst.resolve []).2 = ⟨6, 0, 3⟩ ∧ (visitsFirst.resolve []).2 = ⟨6, 0, 3⟩ ∧
    ∃ resolved, (membersFirst.resolve []).1.get? "Member" = some resolved ∧
      (visitsFirst.resolve []).1.get? "Member" = some resolved := by
  have reordered : membersFirst.models.Perm visitsFirst.models := .swap Model.visit Model.member []
  have apart : membersFirst.HasApartNames := by
    unfold HasApartNames
    simp only [List.disjoint_left]
    decide +kernel
  have counts : (membersFirst.resolve []).2 = ⟨6, 0, 3⟩ := by decide +kernel
  obtain ⟨same, models⟩ := resolve_reordered reordered apart []
  obtain ⟨resolved, found, found', -⟩ := models Model.member List.mem_cons_self
  exact ⟨reordered, apart, counts, same.symm.trans counts, resolved, found, found'⟩

end ModelSchema
