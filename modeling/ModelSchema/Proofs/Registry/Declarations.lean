import ModelSchema.Proofs.Registry.Pairing

/-!
# What resolving depends on

The first step of resolving gives every property the relation that its spelling suggests, whatever
relation the property had before, and the later steps look at nothing older. So a resolved registry
is told by the declarations alone, and resolving it once more changes nothing.

## Main statements

* `Property.mark_unrelated` — marking does not look at the relation of a property.
* `Registry.resolve_unrelated` — resolving starts from the declarations.
* `Registry.resolve_eq_of_unrelated_eq` — the same declarations are resolved in the same way.
-/

namespace ModelSchema

/-- What a spelling suggests takes the place of any relation. -/
theorem Property.mark_unrelated (suffixes : List String) (p : Property) :
    p.unrelated.mark suffixes = p.mark suffixes := by
  cases h : Spelling.candidate? suffixes p.rawType <;> simp [mark, unrelated, h]

namespace Registry

variable {r r' : Registry}

theorem markCandidates_unrelated (r : Registry) (suffixes : List String) :
    r.unrelated.markCandidates suffixes = r.markCandidates suffixes := by
  ext1
  simp only [markCandidates, unrelated, mapProperties, mapModels, List.map_map]
  refine List.map_congr_left fun m _ => ?_
  simp [Function.comp_def, Property.mark_unrelated]

/-- No relation that is there before resolving makes a difference. -/
theorem resolve_unrelated (r : Registry) (suffixes : List String) :
    r.unrelated.resolve suffixes = r.resolve suffixes := by
  rw [resolve, resolve, markCandidates_unrelated]

/-- Registries that differ in the relations of their properties only are resolved to the same
registry with the same counts. Resolving changes nothing but these relations, so it changes nothing
at all in a resolved registry, and counts the same there. -/
theorem resolve_eq_of_unrelated_eq (same : r.unrelated = r'.unrelated)
    (suffixes : List String) :
    r.resolve suffixes = r'.resolve suffixes ∧
    (r.resolve suffixes).1.unrelated = r.unrelated ∧
    (r.resolve suffixes).1.resolve suffixes = r.resolve suffixes := by
  have kept := unrelated_resolve r suffixes
  refine ⟨?_, kept, ?_⟩
  · rw [← resolve_unrelated r, same, resolve_unrelated r']
  · rw [← resolve_unrelated (r.resolve suffixes).1, kept, resolve_unrelated]

/-- A registry whose properties have relations that nothing declares: to a model that is not there,
to the wrong one, and of the wrong kind. -/
def stale : Registry :=
  let related (name raw : String) (relation : Relation) : Property :=
    { Property.declared name raw (Spelling.columnTypeOf raw) with relation }
  empty.insertAll [
    { name := "Member", sourceFile := "member.ts",
      properties := [related "visits" "Visit[]" ⟨.manyToOne, "Ghost", some "visit"⟩,
        related "name" "string" ⟨.oneToMany, "Visit", none⟩] },
    { name := "Visit", sourceFile := "visit.ts",
      properties := [related "memberId" "string" ⟨.oneToOne, "Visit", some "visits"⟩] }]

/-- Stale relations are resolved away: the array finds its partner as in a fresh registry. -/
theorem resolve_stale :
    stale.unrelated.unrelated = stale.unrelated ∧ stale.unrelated ≠ stale ∧
    stale.unrelated.resolve [] = stale.resolve [] ∧ (stale.resolve []).2 = ⟨1, 0, 1⟩ ∧
    (stale.resolve []).1.allProperties.map (·.relation) =
      [⟨.oneToMany, "Visit", some "memberId"⟩, .absent, ⟨.manyToOne, "Member", some "visits"⟩] := by
  have declared : stale.unrelated.unrelated = stale.unrelated :=
    unrelated_mapProperties _ fun _ => rfl
  have differ : stale.unrelated ≠ stale := by
    intro same
    have relations := congrArg (fun r => r.allProperties.map (·.relation)) same
    revert relations
    decide
  obtain ⟨resolved, -, -⟩ := resolve_eq_of_unrelated_eq declared []
  exact ⟨declared, differ, resolved, by decide +kernel, by decide +kernel⟩

end Registry

end ModelSchema
