import ModelSchema.Proofs.Registry.FirstFit
import ModelSchema.Proofs.Registry.References

/-!
# References that point elsewhere

A property is taken for one that points back by its name alone, whatever its type says. So a
property whose type names one model and whose own name is that of another one, which has an array
of the property's model, is turned towards the latter. Any other reference to a single model stays
with the model that its type names.

## Main statements

* `Registry.missesNoPair_resolve` — a namesake with an array that has no partner takes a reference.
* `Registry.resolve_redirects_to_namesake` — what becomes of a reference to a single model.
-/

namespace ModelSchema.Registry

variable {r : Registry} {place : Place} {p : Property} {name : String}

/-- An array of references without a partner leaves no property over that could point back. -/
theorem missesNoPair_resolve (r : Registry) (suffixes : List String) :
    (r.resolve suffixes).1.MissesNoPair := by
  obtain ⟨pairs, h⟩ := (FirstFitRun.start r suffixes).run
  exact h.missesNoPair fun f hf => mem_forwardReferences_resolve.1 hf

/-- A reference to a single model of the registry stays with that model, alone or paired with an
array there; or the property is named after another model with an array of the property's model,
and is paired with that array. If it is left alone, every array of its model in a model that it is
named after has found another partner. -/
theorem resolve_redirects_to_namesake (hp : r.propertyAt? place = some p) (suffixes : List String)
    (single : Spelling.candidate? suffixes p.rawType = some (.oneToOne, name))
    (known : name ∈ r.names) :
    let resolved := (r.resolve suffixes).1
    ∃ q, resolved.propertyAt? place = some q ∧ q.unrelated = p.unrelated ∧
      (q.relation.target = name ∧
          (q.relation.kind = .oneToOne ∨
            ∃ forward, resolved.Partners forward place ∧ forward.model = name) ∨
        ∃ forward, resolved.Partners forward place ∧ forward.model ≠ name ∧
          q.relation.target = forward.model ∧ q.IsNamedAfter forward.model) ∧
      (q.relation.kind = .oneToOne → ∀ forward f, resolved.propertyAt? forward = some f →
        f.relation.kind = .oneToMany → f.relation.target = place.model →
        q.IsNamedAfter forward.model → f.relation.field.isSome) := by
  intro resolved
  obtain ⟨q, hq, same, origin⟩ := exists_resolved hp suffixes
  have raw : q.rawType = p.rawType := congrArg (·.rawType) same
  refine ⟨q, hq, same, ?_, ?_⟩
  · by_cases back : q.relation.kind = .manyToOne
    · obtain ⟨forward, partners, target⟩ := exists_partners_of_manyToOne hq back
      by_cases stays : forward.model = name
      · exact .inl ⟨target.trans stays, .inr ⟨forward, partners, stays⟩⟩
      · have namesake := origin.isNamedAfter back
        rw [target] at namesake
        exact .inr ⟨forward, partners, stays, target, namesake⟩
    · obtain ⟨kind, target⟩ := (origin.oneToOne_iff back).2 ⟨raw ▸ single, known⟩
      exact .inl ⟨target, .inl kind⟩
  · intro alone forward f hf array target namesake
    obtain ⟨a, ha, model, hindex⟩ := propertyAt?_eq_some_iff.1 hf
    obtain ⟨b, hb, model', hindex'⟩ := propertyAt?_eq_some_iff.1 hq
    by_contra partner
    have unpaired : f.relation.field = none := Option.not_isSome_iff_eq_none.1 partner
    have taken := missesNoPair_resolve r suffixes a ha f (List.mem_of_getElem? hindex) array
      unpaired b hb (model'.trans target.symm) q (List.mem_of_getElem? hindex')
      (model.symm ▸ namesake)
    exact taken.2 alone

/-- Members with visits; a visit refers to a coach twice, once under the name of a member. -/
def training : Registry :=
  let model (name : String) (properties : List Property) : Model :=
    { name, properties, sourceFile := "training.ts" }
  empty.insertAll [
    model "Coach" [.declared "name" "string" ⟨.string, false⟩],
    model "Member" [.declared "visits" "Visit[]" ⟨.json, false⟩],
    model "Visit" [.declared "coach" "Coach" ⟨.string, false⟩,
      .declared "member" " Coach" ⟨.string, false⟩]]

/-- The reference under the name of its own model stays. -/
theorem resolve_redirects_to_namesake_coach :
    ∃ q, (training.resolve []).1.propertyAt? ⟨"Visit", 0⟩ = some q ∧ q.name = "coach" ∧
      q.relation.target = "Coach" := by
  have declared : ∃ p, training.propertyAt? ⟨"Visit", 0⟩ = some p ∧ p.name = "coach" ∧
      Spelling.candidate? [] p.rawType = some (.oneToOne, "Coach") :=
    ⟨_, rfl, rfl, by decide⟩
  obtain ⟨p, hp, name, single⟩ := declared
  obtain ⟨q, hq, same, stays, -⟩ := resolve_redirects_to_namesake hp [] single (by decide)
  have coach : q.name = "coach" := (congrArg (·.name) same).trans name
  refine ⟨q, hq, coach, ?_⟩
  obtain ⟨target, -⟩ | ⟨forward, ⟨f, -, hf, -⟩, ne, -, namesake⟩ := stays
  · exact target
  · -- No other model of the registry has that name.
    have apart : ∀ model ∈ training.names, model ≠ "Coach" →
        Text.lowerOf "coach" ≠ Text.lowerOf model ∧
        Text.lowerOf "coach" ≠ Text.lowerOf model ++ "id" := by
      decide +kernel
    obtain ⟨a, ha, model, -⟩ := propertyAt?_eq_some_iff.1 hf
    have among : forward.model ∈ training.names := by
      rw [← names_resolve training [], mem_names_iff]
      exact ⟨a, ha, model⟩
    rw [Property.IsNamedAfter, coach] at namesake
    obtain ⟨alone, withId⟩ := apart _ among ne
    exact (namesake.elim alone withId).elim

/-- The reference under the name of a member is turned from the coach to the member. -/
theorem resolve_redirects_reference :
    (training.propertyAt? ⟨"Visit", 1⟩).map (fun p => Spelling.candidate? [] p.rawType) =
      some (some (.oneToOne, "Coach")) ∧
    "Coach" ∈ training.names ∧
    ((training.resolve []).1.propertyAt? ⟨"Visit", 1⟩).map (·.relation) =
      some ⟨.manyToOne, "Member", some "visits"⟩ := by
  decide +kernel

end ModelSchema.Registry
