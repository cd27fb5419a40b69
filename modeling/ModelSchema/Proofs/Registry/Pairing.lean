import Mathlib.Logic.Equiv.Defs
import ModelSchema.Proofs.Registry.Place

/-!
# Pairing of references

Resolving a registry makes arrays of references and the properties that point back at their owners
each other's partners. The pairs made so far are kept in a list of places; every step adds at most
one pair of places that were in none, so the list stays a one-to-one correspondence.

## Main definitions

* `Registry.Partners` — two places whose properties name each other.
* `Registry.IsPairing` — a list of all pairs of a registry, no place in two of them.
* `Registry.PairingRun` — what holds while arrays of references wait to be paired.

## Main statements

* `Registry.PairingRun.step` — one array of references less waits.
* `Registry.exists_isPairing_resolve` — a resolved registry has a pairing.
* `Registry.resolve_symmetric` — its relations are symmetric.
-/

namespace ModelSchema

/-! ## Candidates -/

theorem Spelling.kind_of_candidate? {suffixes : List String} {raw : String}
    {kind : RelationKind} {target : String}
    (h : candidate? suffixes raw = some (kind, target)) :
    kind = .oneToMany ∨ kind = .oneToOne := by
  unfold candidate? at h
  grind

/-- A relation to one of the named models, or none at all. -/
def Relation.IsKnown (names : List String) (rel : Relation) : Prop :=
  rel = .absent ∨ rel.isPresent ∧ rel.target ∈ names

/-- A relation that a spelling suggests to one of the named models, or none at all. -/
def Relation.IsCandidate (names : List String) (rel : Relation) : Prop :=
  rel = .absent ∨ ∃ kind, ∃ target ∈ names,
    (kind = .oneToMany ∨ kind = .oneToOne) ∧ rel = .unpaired kind target

theorem Relation.IsCandidate.isKnown {names : List String} {rel : Relation}
    (h : rel.IsCandidate names) : rel.IsKnown names := by
  obtain rfl | ⟨kind, target, known, hkind, rfl⟩ := h
  · exact .inl rfl
  · refine .inr ⟨?_, known⟩
    rcases hkind with rfl | rfl <;> rfl

/-- What a spelling suggests is kept if it leads to one of the named models. -/
theorem Property.relation_keepKnown_mark (names suffixes : List String) (p : Property) :
    ((p.mark suffixes).keepKnown names).relation =
      match Spelling.candidate? suffixes p.rawType with
      | some (kind, target) => if target ∈ names then .unpaired kind target else .absent
      | none => .absent := by
  cases candidate : Spelling.candidate? suffixes p.rawType with
  | none => simp [mark, keepKnown, candidate, Relation.absent, Relation.isPresent]
  | some suggested =>
    obtain ⟨kind, target⟩ := suggested
    have present : (Relation.unpaired kind target).isPresent = true := by
      rcases Spelling.kind_of_candidate? candidate with rfl | rfl <;> rfl
    have leads : (Relation.unpaired kind target).target = target := rfl
    by_cases known : target ∈ names
    · simp [mark, keepKnown, candidate, leads, known]
    · simp [mark, keepKnown, candidate, present, leads, known]

theorem Property.isCandidate_keepKnown_mark (names suffixes : List String) (p : Property) :
    ((p.mark suffixes).keepKnown names).relation.IsCandidate names := by
  rw [relation_keepKnown_mark]
  split
  · rename_i kind target candidate
    split
    · rename_i known
      exact .inr ⟨kind, target, known, Spelling.kind_of_candidate? candidate, rfl⟩
    · exact .inl rfl
  · exact .inl rfl

/-- A property that points back is no array of references and has no partner yet. -/
theorem Property.kind_of_pointsBackAt {owner : String} {p : Property}
    (h : p.pointsBackAt owner) : p.relation.kind = .none ∨ p.relation.kind = .oneToOne := by
  simp only [pointsBackAt, Bool.and_eq_true, Bool.or_eq_true, beq_iff_eq] at h
  exact h.2

namespace Registry

/-! ## Pairs of places -/

/-- An array of references and the property that points back at its owner, each naming the
other. -/
def Partners (r : Registry) (forward back : Place) : Prop :=
  ∃ f b, r.propertyAt? forward = some f ∧ r.propertyAt? back = some b ∧
    f.relation = ⟨.oneToMany, back.model, some b.name⟩ ∧
    b.relation = ⟨.manyToOne, forward.model, some f.name⟩

/-- All pairs of a registry: no place is in two of them, and every property with a partner is in
one. -/
structure IsPairing (r : Registry) (pairs : List (Place × Place)) : Prop where
  partners : ∀ x ∈ pairs, r.Partners x.1 x.2
  nodup_forward : (pairs.map Prod.fst).Nodup
  nodup_back : (pairs.map Prod.snd).Nodup
  forward_mem : ∀ place p, r.propertyAt? place = some p → p.relation.kind = .oneToMany →
    p.relation.field.isSome → place ∈ pairs.map Prod.fst
  back_mem : ∀ place p, r.propertyAt? place = some p → p.relation.kind = .manyToOne →
    place ∈ pairs.map Prod.snd

/-- The places of the arrays of references that have a partner. -/
def PairedArray (r : Registry) : Type :=
  {place : Place // ∃ p, r.propertyAt? place = some p ∧ p.relation.kind = .oneToMany ∧
    p.relation.field.isSome}

/-- The places of the properties that point back. -/
def BackReference (r : Registry) : Type :=
  {place : Place // ∃ p, r.propertyAt? place = some p ∧ p.relation.kind = .manyToOne}

/-- The pairs of a pairing are those of a one-to-one correspondence. -/
theorem IsPairing.exists_equiv_mem {r : Registry} {pairs : List (Place × Place)}
    (h : r.IsPairing pairs) :
    ∃ partner : r.PairedArray ≃ r.BackReference, ∀ a, (a.1, (partner a).1) ∈ pairs := by
  have partnered : ∀ a : r.PairedArray, ∃ b : r.BackReference, (a.1, b.1) ∈ pairs := by
    rintro ⟨forward, f, hf, kind, field⟩
    obtain ⟨⟨_, back⟩, hmem, rfl⟩ := List.mem_map.1 (h.forward_mem forward f hf kind field)
    obtain ⟨_, b, _, hb, _, rel⟩ := h.partners _ hmem
    exact ⟨⟨back, b, hb, by rw [rel]⟩, hmem⟩
  choose partner hpartner using partnered
  have injective : Function.Injective partner := by
    intro a a' same
    have mem := hpartner a
    rw [same] at mem
    have eq := List.inj_on_of_nodup_map h.nodup_back mem (hpartner a') rfl
    exact Subtype.ext (congrArg Prod.fst eq)
  have surjective : Function.Surjective partner := by
    rintro ⟨back, b, hb, kind⟩
    obtain ⟨⟨forward, _⟩, hmem, rfl⟩ := List.mem_map.1 (h.back_mem back b hb kind)
    obtain ⟨f, _, hf, _, rel, _⟩ := h.partners _ hmem
    let a : r.PairedArray := ⟨forward, f, hf, by rw [rel], by rw [rel]; rfl⟩
    have eq := List.inj_on_of_nodup_map h.nodup_forward (hpartner a) hmem rfl
    exact ⟨a, Subtype.ext (congrArg Prod.snd eq)⟩
  exact ⟨.ofBijective partner ⟨injective, surjective⟩, hpartner⟩

/-- A pairing is a one-to-one correspondence of partners. -/
theorem IsPairing.exists_equiv {r : Registry} {pairs : List (Place × Place)}
    (h : r.IsPairing pairs) :
    ∃ partner : r.PairedArray ≃ r.BackReference, ∀ a, r.Partners a.1 (partner a).1 := by
  obtain ⟨partner, hpartner⟩ := h.exists_equiv_mem
  exact ⟨partner, fun a => h.partners _ (hpartner a)⟩

/-- Partners stay partners under changes elsewhere. -/
theorem Partners.of_eq {r r' : Registry} {forward back : Place} (h : r.Partners forward back)
    (hf : r'.propertyAt? forward = r.propertyAt? forward)
    (hb : r'.propertyAt? back = r.propertyAt? back) : r'.Partners forward back := by
  obtain ⟨f, b, hf', hb', rel⟩ := h
  exact ⟨f, b, hf.trans hf', hb.trans hb', rel⟩

/-! ## One step -/

theorem backIndex?_eq_some {r : Registry} {f : ForwardReference} {back : Nat}
    (h : r.backIndex? f = some back) :
    ∃ b, r.propertyAt? ⟨f.target, back⟩ = some b ∧ b.pointsBackAt f.owner := by
  obtain ⟨hlt, points, -⟩ := List.findIdx?_eq_some_iff_getElem.1 h
  exact ⟨_, List.getElem?_eq_getElem hlt, points⟩

@[simp] theorem names_pairAt (r : Registry) (f : ForwardReference) (back : Nat) :
    (r.pairAt f back).names = r.names := by
  unfold pairAt
  split <;> simp

section Step

variable {r : Registry} {f : ForwardReference} {back : Nat} {fp bp : Property}

/-- An array of references does not point back. -/
theorem place_ne_back (hf : r.propertyAt? f.place = some fp)
    (hrel : fp.relation = .unpaired .oneToMany f.target)
    (hb : r.propertyAt? ⟨f.target, back⟩ = some bp) (points : bp.pointsBackAt f.owner) :
    f.place ≠ ⟨f.target, back⟩ := by
  intro same
  have kind := bp.kind_of_pointsBackAt points
  rw [same, hb] at hf
  obtain rfl := Option.some.inj hf
  simp [hrel, Relation.unpaired] at kind

/-- Pairing changes the two places of the pair and no other. -/
theorem propertyAt?_pairAt (hf : r.propertyAt? f.place = some fp)
    (hrel : fp.relation = .unpaired .oneToMany f.target)
    (hb : r.propertyAt? ⟨f.target, back⟩ = some bp) (points : bp.pointsBackAt f.owner)
    (place : Place) :
    (r.pairAt f back).propertyAt? place =
      if place = f.place then
        some { fp with relation := ⟨.oneToMany, f.target, some bp.name⟩ }
      else if place = ⟨f.target, back⟩ then
        some { bp with relation := ⟨.manyToOne, f.owner, some fp.name⟩ }
      else r.propertyAt? place := by
  have apart := place_ne_back hf hrel hb points
  have step : r.pairAt f back =
      (r.modifyAt f.target back fun p =>
        { p with relation := ⟨.manyToOne, f.owner, some fp.name⟩ }).modifyAt f.owner f.index
        fun p => { p with relation := { p.relation with field := some bp.name } } := by
    unfold pairAt
    rw [show (r.propertiesOf f.owner)[f.index]? = some fp from hf,
      show (r.propertiesOf f.target)[back]? = some bp from hb]
  rw [step, propertyAt?_modifyAt, propertyAt?_modifyAt]
  change (if place = f.place then _ else _) = _
  by_cases atForward : place = f.place
  · subst atForward
    simp [apart, hf, hrel, Relation.unpaired]
  · by_cases atBack : place = ⟨f.target, back⟩
    · subst atBack
      simp [Ne.symm apart, hb]
    · simp [atForward, atBack]

/-- The places of a new pair are in no old one. -/
theorem IsPairing.untouched {pairs : List (Place × Place)} (h : r.IsPairing pairs)
    (hf : r.propertyAt? f.place = some fp)
    (hrel : fp.relation = .unpaired .oneToMany f.target)
    (hb : r.propertyAt? ⟨f.target, back⟩ = some bp) (points : bp.pointsBackAt f.owner)
    {x : Place × Place} (hx : x ∈ pairs) :
    x.1 ≠ f.place ∧ x.1 ≠ ⟨f.target, back⟩ ∧ x.2 ≠ f.place ∧ x.2 ≠ ⟨f.target, back⟩ := by
  have kind := bp.kind_of_pointsBackAt points
  obtain ⟨g, b, hg, hgb, relg, relb⟩ := h.partners x hx
  refine ⟨?_, ?_, ?_, ?_⟩ <;> intro same
  · rw [same, hf] at hg
    obtain rfl := Option.some.inj hg
    simp [hrel, Relation.unpaired] at relg
  · rw [same, hb] at hg
    obtain rfl := Option.some.inj hg
    simp [relg] at kind
  · rw [same, hf] at hgb
    obtain rfl := Option.some.inj hgb
    simp [hrel, Relation.unpaired] at relb
  · rw [same, hb] at hgb
    obtain rfl := Option.some.inj hgb
    simp [relb] at kind

/-- A new pair is put to the old ones. -/
theorem IsPairing.pairAt {pairs : List (Place × Place)} (h : r.IsPairing pairs)
    (hf : r.propertyAt? f.place = some fp)
    (hrel : fp.relation = .unpaired .oneToMany f.target)
    (hb : r.propertyAt? ⟨f.target, back⟩ = some bp) (points : bp.pointsBackAt f.owner) :
    (r.pairAt f back).IsPairing ((f.place, ⟨f.target, back⟩) :: pairs) := by
  have at? := propertyAt?_pairAt hf hrel hb points
  have apart := place_ne_back hf hrel hb points
  have untouched := fun x (hx : x ∈ pairs) => h.untouched hf hrel hb points hx
  refine ⟨?_, ?_, ?_, ?_, ?_⟩
  · intro x hx
    rcases List.mem_cons.1 hx with rfl | hx
    · exact ⟨_, _, by rw [at?, if_pos rfl], by rw [at?, if_neg (Ne.symm apart), if_pos rfl],
        rfl, rfl⟩
    · obtain ⟨h₁, h₂, h₃, h₄⟩ := untouched x hx
      exact (h.partners x hx).of_eq (by rw [at?, if_neg h₁, if_neg h₂])
        (by rw [at?, if_neg h₃, if_neg h₄])
  · refine List.nodup_cons.2 ⟨fun mem => ?_, h.nodup_forward⟩
    obtain ⟨x, hx, same⟩ := List.mem_map.1 mem
    exact (untouched x hx).1 same
  · refine List.nodup_cons.2 ⟨fun mem => ?_, h.nodup_back⟩
    obtain ⟨x, hx, same⟩ := List.mem_map.1 mem
    exact (untouched x hx).2.2.2 same
  · intro place p hp hkind field
    rw [at?] at hp
    split at hp
    · rename_i same
      exact same ▸ List.mem_cons_self
    · split at hp
      · obtain rfl := Option.some.inj hp
        cases hkind
      · exact List.mem_cons_of_mem _ (h.forward_mem place p hp hkind field)
  · intro place p hp hkind
    rw [at?] at hp
    split at hp
    · obtain rfl := Option.some.inj hp
      cases hkind
    · split at hp
      · rename_i same
        exact same ▸ List.mem_cons_self
      · exact List.mem_cons_of_mem _ (h.back_mem place p hp hkind)

end Step

/-! ## The whole run -/

/-- What holds while the arrays of references in `waiting` still are to be paired. -/
structure PairingRun (names : List String) (state : Registry × Nat)
    (pairs : List (Place × Place)) (waiting : List ForwardReference) : Prop where
  names_eq : state.1.names = names
  pairing : state.1.IsPairing pairs
  known : ∀ place p, state.1.propertyAt? place = some p → p.relation.IsKnown names
  count : state.2 = pairs.length
  nodup : (waiting.map ForwardReference.place).Nodup
  unpaired : ∀ f ∈ waiting, ∃ p, state.1.propertyAt? f.place = some p ∧
    p.relation = .unpaired .oneToMany f.target

section Run

variable {names : List String} {state : Registry × Nat} {pairs : List (Place × Place)}
  {f : ForwardReference} {waiting : List ForwardReference}

/-- Nothing changes if no property may point back. -/
theorem PairingRun.skip (h : PairingRun names state pairs (f :: waiting)) :
    PairingRun names state pairs waiting :=
  { h with
    nodup := (List.nodup_cons.1 h.nodup).2
    unpaired := fun g hg => h.unpaired g (List.mem_cons_of_mem _ hg) }

/-- One more pair is made with a property that may point back. -/
theorem PairingRun.pair (h : PairingRun names state pairs (f :: waiting)) {back : Nat}
    (found : state.1.backIndex? f = some back) :
    PairingRun names (state.1.pairAt f back, state.2 + 1)
      ((f.place, ⟨f.target, back⟩) :: pairs) waiting := by
  obtain ⟨notLater, nodup⟩ := List.nodup_cons.1 h.nodup
  obtain ⟨fp, hf, hrel⟩ := h.unpaired f List.mem_cons_self
  obtain ⟨bp, hb, points⟩ := backIndex?_eq_some found
  have at? := propertyAt?_pairAt hf hrel hb points
  constructor
  case names_eq => exact (names_pairAt ..).trans h.names_eq
  case pairing => exact h.pairing.pairAt hf hrel hb points
  case count => simp [h.count]
  case nodup => exact nodup
  case known =>
    intro place p hp
    rw [at?] at hp
    split at hp
    · obtain rfl := Option.some.inj hp
      have known := h.known _ _ hf
      rw [hrel] at known
      exact .inr ⟨rfl, known.resolve_left (by simp [Relation.unpaired, Relation.absent]) |>.2⟩
    · split at hp
      · obtain rfl := Option.some.inj hp
        obtain ⟨m, hm, name, -⟩ := propertyAt?_eq_some_iff.1 hf
        exact .inr ⟨rfl, h.names_eq ▸ mem_names_iff.2 ⟨m, hm, name⟩⟩
      · exact h.known place p hp
  case unpaired =>
    intro g hg
    obtain ⟨p, hp, rel⟩ := h.unpaired g (List.mem_cons_of_mem _ hg)
    have notForward : g.place ≠ f.place := fun same =>
      notLater (same ▸ List.mem_map_of_mem hg)
    have notBack : g.place ≠ ⟨f.target, back⟩ := by
      intro same
      have kind := bp.kind_of_pointsBackAt points
      rw [same, hb] at hp
      obtain rfl := Option.some.inj hp
      simp [rel, Relation.unpaired] at kind
    exact ⟨p, by rw [at?, if_neg notForward, if_neg notBack, hp], rel⟩

/-- A step either leaves everything as it is or makes one more pair. -/
theorem PairingRun.step (h : PairingRun names state pairs (f :: waiting)) :
    ∃ pairs', PairingRun names (pairOne state f) pairs' waiting := by
  unfold pairOne
  cases found : state.1.backIndex? f with
  | none => exact ⟨pairs, h.skip⟩
  | some back => exact ⟨_, h.pair found⟩

end Run

/-- When the arrays of references in `done` have had their turn, the others still wait. -/
theorem PairingRun.run_append {names : List String} {state : Registry × Nat}
    {pairs : List (Place × Place)} {done waiting : List ForwardReference}
    (h : PairingRun names state pairs (done ++ waiting)) :
    ∃ pairs', PairingRun names (done.foldl pairOne state) pairs' waiting := by
  induction done generalizing state pairs with
  | nil => exact ⟨pairs, h⟩
  | cons f done ih =>
    obtain ⟨pairs', h'⟩ := h.step
    exact ih h'

theorem PairingRun.run {names : List String} {state : Registry × Nat}
    {pairs : List (Place × Place)} {waiting : List ForwardReference}
    (h : PairingRun names state pairs waiting) :
    ∃ pairs', PairingRun names (waiting.foldl pairOne state) pairs' [] := by
  rw [← List.append_nil waiting] at h
  exact h.run_append

/-- Before pairing, every relation is a candidate for a model of the registry. -/
theorem isCandidate_dropUnknown (r : Registry) (suffixes : List String) {place : Place}
    {p : Property} (h : (r.markCandidates suffixes).dropUnknown.propertyAt? place = some p) :
    p.relation.IsCandidate r.names := by
  simp only [dropUnknown, markCandidates, propertyAt?_mapProperties, names_mapProperties,
    Option.map_eq_some_iff] at h
  obtain ⟨-, ⟨p, -, rfl⟩, rfl⟩ := h
  exact p.isCandidate_keepKnown_mark r.names suffixes

/-- No pair has been made yet, and every array of references waits. -/
theorem PairingRun.start (r : Registry) (suffixes : List String) :
    PairingRun r.names ((r.markCandidates suffixes).dropUnknown, 0) []
      (r.markCandidates suffixes).dropUnknown.forwardReferences := by
  have candidate := @isCandidate_dropUnknown r suffixes
  constructor
  case names_eq => simp [dropUnknown, markCandidates]
  case known => exact fun place p hp => (candidate hp).isKnown
  case count => rfl
  case nodup => exact nodup_place_forwardReferences _
  case unpaired =>
    intro f hf
    obtain ⟨p, hp, kind, target⟩ := mem_forwardReferences.1 hf
    refine ⟨p, hp, ?_⟩
    obtain rel | ⟨kind', target', -, -, rel⟩ := candidate hp <;> rw [rel] at kind target ⊢
    · cases kind
    · cases kind
      rw [target]
      rfl
  case pairing =>
    refine ⟨by simp, .nil, .nil, fun place p hp kind field => ?_, fun place p hp kind => ?_⟩
    · obtain rel | ⟨_, _, -, -, rel⟩ := candidate hp <;> rw [rel] at field <;> cases field
    · obtain rel | ⟨_, _, -, hkind, rel⟩ := candidate hp <;> rw [rel] at kind
      · cases kind
      · rcases hkind with rfl | rfl <;> cases kind

/-- A resolved registry has a pairing, with as many pairs as were counted; its relations lead to
models of the registry. -/
theorem exists_isPairing_resolve (r : Registry) (suffixes : List String) :
    ∃ pairs, PairingRun r.names ((r.resolve suffixes).1, (r.resolve suffixes).2.paired) pairs [] :=
  (PairingRun.start r suffixes).run

/-- What points back in a resolved registry has an array of references for its partner. -/
theorem exists_partners_of_manyToOne {r : Registry} {suffixes : List String} {back : Place}
    {p : Property} (hp : (r.resolve suffixes).1.propertyAt? back = some p)
    (kind : p.relation.kind = .manyToOne) :
    ∃ forward, (r.resolve suffixes).1.Partners forward back ∧
      p.relation.target = forward.model := by
  obtain ⟨pairs, h⟩ := exists_isPairing_resolve r suffixes
  obtain ⟨⟨forward, _⟩, hpair, rfl⟩ := List.mem_map.1 (h.pairing.back_mem back p hp kind)
  have partners := h.pairing.partners _ hpair
  have ⟨_, b, _, hb, _, relation⟩ := partners
  obtain rfl := Option.some.inj (hp.symm.trans hb)
  exact ⟨forward, partners, by rw [relation]⟩

@[simp] theorem names_resolve (r : Registry) (suffixes : List String) :
    (r.resolve suffixes).1.names = r.names := by
  obtain ⟨pairs, h⟩ := exists_isPairing_resolve r suffixes
  exact h.names_eq

/-- Relations of a resolved registry lead to its models. -/
theorem isKnown_of_mem_resolve {r : Registry} {suffixes : List String} {m : Model} {p : Property}
    (hm : m ∈ (r.resolve suffixes).1.models) (hp : p ∈ m.properties) :
    p.relation.IsKnown r.names := by
  obtain ⟨pairs, h⟩ := exists_isPairing_resolve r suffixes
  obtain ⟨index, hplace⟩ := exists_place hm hp
  exact h.known _ _ hplace

/-- A related property of a resolved registry refers to one of its models. -/
theorem exists_target_of_mem_resolve {r : Registry} {suffixes : List String} {m : Model}
    {p : Property} (hm : m ∈ (r.resolve suffixes).1.models) (hp : p ∈ m.properties)
    (kind : p.relation.kind ≠ .none) :
    ∃ a ∈ (r.resolve suffixes).1.models, a.name = p.relation.target ∧
      (r.resolve suffixes).1.get? p.relation.target = some a := by
  obtain rel | ⟨-, known⟩ := isKnown_of_mem_resolve hm hp
  · exact absurd (congrArg Relation.kind rel) kind
  · rw [← names_resolve r suffixes] at known
    obtain ⟨a, ha, name⟩ := mem_names_iff.1 known
    exact ⟨a, ha, name, name ▸ get?_of_mem ha⟩

end Registry

/-! ## What resolving keeps -/

/-- A property without its relation. -/
def Property.unrelated (p : Property) : Property := { p with relation := .absent }

theorem Property.unrelated_mark (suffixes : List String) (p : Property) :
    (p.mark suffixes).unrelated = p.unrelated := by
  unfold mark
  split <;> rfl

theorem Property.unrelated_keepKnown (names : List String) (p : Property) :
    (p.keepKnown names).unrelated = p.unrelated := by
  unfold keepKnown
  split <;> rfl

namespace Registry

/-- The registry without any relations. -/
def unrelated (r : Registry) : Registry := r.mapProperties (·.unrelated)

theorem unrelated_mapProperties (r : Registry) {f : Property → Property}
    (h : ∀ p, (f p).unrelated = p.unrelated) : (r.mapProperties f).unrelated = r.unrelated := by
  ext1
  simp only [unrelated, mapProperties, mapModels, List.map_map]
  refine List.map_congr_left fun m _ => ?_
  simp [h]

theorem unrelated_modifyAt (r : Registry) (name : String) (index : Nat) {f : Property → Property}
    (h : ∀ p, (f p).unrelated = p.unrelated) :
    (r.modifyAt name index f).unrelated = r.unrelated := by
  ext1
  simp only [unrelated, modifyAt, mapProperties, mapModels, List.map_map]
  refine List.map_congr_left fun m _ => ?_
  have kept : (m.properties.modify index f).map (·.unrelated) =
      m.properties.map (·.unrelated) := by
    refine List.ext_getElem? fun i => ?_
    by_cases hi : index = i <;> cases hp : m.properties[i]? <;> simp [hi, hp, h]
  by_cases hn : m.name = name <;> simp [hn, kept]

theorem unrelated_pairOne (state : Registry × Nat) (f : ForwardReference) :
    (pairOne state f).1.unrelated = state.1.unrelated := by
  unfold pairOne pairAt
  split
  · split
    · refine (unrelated_modifyAt _ _ _ ?_).trans (unrelated_modifyAt _ _ _ ?_)
      · exact fun _ => rfl
      · exact fun _ => rfl
    · rfl
  · rfl

/-- Resolving changes relations and nothing else. -/
theorem unrelated_resolve (r : Registry) (suffixes : List String) :
    (r.resolve suffixes).1.unrelated = r.unrelated := by
  have run : ∀ (fs : List ForwardReference) (state : Registry × Nat),
      (fs.foldl pairOne state).1.unrelated = state.1.unrelated := by
    intro fs
    induction fs with
    | nil => exact fun _ => rfl
    | cons f fs ih => exact fun state => (ih _).trans (unrelated_pairOne state f)
  calc (r.resolve suffixes).1.unrelated
      = (r.markCandidates suffixes).dropUnknown.unrelated := run _ _
    _ = (r.markCandidates suffixes).unrelated :=
        unrelated_mapProperties _ (Property.unrelated_keepKnown _)
    _ = r.unrelated := unrelated_mapProperties _ (Property.unrelated_mark suffixes)

/-- A resolved model has the name and the properties of a declared one, but for relations. -/
theorem exists_declared_of_mem_resolve {r : Registry} {suffixes : List String} {m : Model}
    (h : m ∈ (r.resolve suffixes).1.models) :
    ∃ d ∈ r.models, d.name = m.name ∧
      d.properties.map (·.unrelated) = m.properties.map (·.unrelated) := by
  have mem : { m with properties := m.properties.map (·.unrelated) } ∈
      (r.resolve suffixes).1.unrelated.models := List.mem_map.2 ⟨m, h, rfl⟩
  rw [unrelated_resolve] at mem
  obtain ⟨d, hd, same⟩ := List.mem_map.1 mem
  injection same with name properties
  exact ⟨d, hd, name, properties⟩

/-- Resolving keeps the names of properties. -/
theorem exists_map_name_of_mem_resolve {r : Registry} {suffixes : List String} {m : Model}
    (h : m ∈ (r.resolve suffixes).1.models) :
    ∃ d ∈ r.models, d.name = m.name ∧
      d.properties.map (·.name) = m.properties.map (·.name) := by
  obtain ⟨d, hd, name, same⟩ := exists_declared_of_mem_resolve h
  refine ⟨d, hd, name, ?_⟩
  have names : ∀ ps : List Property,
      (ps.map (·.unrelated)).map (·.name) = ps.map (·.name) := by
    intro ps
    rw [List.map_map]
    rfl
  rw [← names, same, names]

/-! ## Symmetry -/

/-- Arrays of references with a partner and properties that point back are in one-to-one
correspondence, and each pair names each other; every relation leads to a model of the registry,
and a property without one carries nothing of one. -/
theorem resolve_symmetric (r : Registry) (suffixes : List String) :
    (∃ partner : (r.resolve suffixes).1.PairedArray ≃ (r.resolve suffixes).1.BackReference,
      ∀ a, (r.resolve suffixes).1.Partners a.1 (partner a).1) ∧
    ∀ m ∈ (r.resolve suffixes).1.models, ∀ p ∈ m.properties,
      (p.relation.kind ≠ .none → p.relation.target ∈ (r.resolve suffixes).1.names) ∧
      (p.relation.kind = .none → p.relation.target = "" ∧ p.relation.field = none) := by
  obtain ⟨pairs, h⟩ := exists_isPairing_resolve r suffixes
  refine ⟨h.pairing.exists_equiv, fun m hm p hp => ?_⟩
  rw [names_resolve]
  obtain rel | ⟨present, known⟩ := isKnown_of_mem_resolve hm hp
  · simp [rel, Relation.absent]
  · exact ⟨fun _ => known, fun kind => by simp [Relation.isPresent, kind] at present⟩

end Registry

end ModelSchema
