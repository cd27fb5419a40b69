import Mathlib.Data.List.Induction
import ModelSchema.Proofs.Registry.Place

/-!
# Insertion into a registry

Models are inserted one after the other. A name keeps the place at which it came first, and the
last model of that name is found under it.

## Main definitions

* `repetitions` — what comes again in a list.

## Main statements

* `Registry.names_insertAll` — the names in the order in which they came first.
* `Registry.get?_insertAll` — the last model of a name.
* `length_eraseDups_add_length_repetitions` — every entry of a list comes first or again.
-/

namespace ModelSchema

/-! ## Repetitions -/

/-- What stands in a list behind the first of its kind, in order. -/
def repetitions (names : List String) : List String :=
  (names.zipIdx.filter fun n => (names.take n.2).contains n.1).map Prod.fst

example : repetitions ["a", "b", "a", "a"] = ["a", "a"] := by decide

/-- One more entry at the end is a repetition if it stood in the list before. -/
theorem repetitions_concat (names : List String) (name : String) :
    repetitions (names ++ [name]) =
      repetitions names ++ if name ∈ names then [name] else [] := by
  have front : (names.zipIdx.filter fun n => ((names ++ [name]).take n.2).contains n.1) =
      names.zipIdx.filter fun n => (names.take n.2).contains n.1 := by
    refine List.filter_congr fun n hn => ?_
    have within : n.2 < names.length := by simpa using List.snd_lt_add_of_mem_zipIdx hn
    rw [List.take_append_of_le_length (Nat.le_of_lt within)]
  unfold repetitions
  rw [List.zipIdx_append, List.filter_append, List.map_append, front]
  by_cases h : name ∈ names <;> simp [h]

theorem eraseDups_concat (names : List String) (name : String) :
    (names ++ [name]).eraseDups = names.eraseDups ++ if name ∈ names then [] else [name] := by
  rw [List.eraseDups_append]
  by_cases h : name ∈ names <;> simp [List.removeAll, List.eraseDups_cons, h]

/-- An entry of a list is the first of its kind or a repetition. -/
theorem length_eraseDups_add_length_repetitions (names : List String) :
    names.eraseDups.length + (repetitions names).length = names.length := by
  induction names using List.reverseRecOn with
  | nil => rfl
  | append_singleton names name ih =>
    rw [eraseDups_concat, repetitions_concat]
    by_cases h : name ∈ names <;> simp [h] <;> omega

namespace Registry

/-! ## One model -/

variable {r : Registry} {m : Model}

theorem names_insert (r : Registry) (m : Model) :
    (r.insert m).names = r.names ++ if m.name ∈ r.names then [] else [m.name] := by
  have placed := map_name_place r.models m
  change (place r.models m).map (·.name) = _
  rw [placed]
  by_cases h : m.name ∈ r.names
  · have known : (r.models.map (·.name)).contains m.name = true := by simpa [names] using h
    rw [if_pos known, if_pos h, List.append_nil, names]
  · have fresh : ¬ (r.models.map (·.name)).contains m.name = true := by simpa [names] using h
    rw [if_neg fresh, if_neg h, names]

/-- An inserted model is found under its name, and every other one as before. -/
theorem get?_insert (r : Registry) (m : Model) (name : String) :
    (r.insert m).get? name = if m.name = name then some m else r.get? name := by
  split
  · rename_i own
    refine get?_eq_some_iff.2 ⟨?_, own⟩
    change m ∈ place r.models m
    unfold place
    split
    · rename_i known
      obtain ⟨old, hold, same⟩ : ∃ old ∈ r.models, old.name = m.name := by simpa using known
      exact List.mem_map.2 ⟨old, hold, if_pos same⟩
    · exact List.mem_append_right _ (List.mem_singleton_self m)
  · rename_i other
    have hm : (m.name == name) = false := by simpa using other
    change (place r.models m).find? (·.name == name) = r.models.find? (·.name == name)
    unfold place
    split
    · have same : ∀ old : Model, ((if old.name = m.name then m else old).name == name) =
          (old.name == name) := by
        intro old
        by_cases h : old.name = m.name <;> simp [h]
      induction r.models with
      | nil => rfl
      | cons old models ih =>
        rw [List.map_cons, List.find?_cons, List.find?_cons, same, ih]
        by_cases h : old.name = m.name
        · simp [h, hm]
        · simp [h]
    · rw [List.find?_append]
      simp [hm]

/-! ## Several models -/

theorem insertAll_concat (r : Registry) (models : List Model) (m : Model) :
    r.insertAll (models ++ [m]) = (r.insertAll models).insert m := by
  simp [insertAll]

/-- Names stand in the order in which they came first. -/
theorem names_insertAll (models : List Model) :
    (Registry.empty.insertAll models).names = (models.map (·.name)).eraseDups := by
  induction models using List.reverseRecOn with
  | nil => rfl
  | append_singleton models m ih =>
    rw [insertAll_concat, names_insert, ih, List.map_append, List.map_singleton,
      eraseDups_concat]
    simp only [List.mem_eraseDups]

/-- The last model of a name is found under it. -/
theorem get?_insertAll (models : List Model) (name : String) :
    (Registry.empty.insertAll models).get? name =
      (models.filter (·.name == name)).getLast? := by
  induction models using List.reverseRecOn with
  | nil => rfl
  | append_singleton models m ih =>
    rw [insertAll_concat, get?_insert, ih, List.filter_append]
    by_cases h : m.name = name <;> simp [h]

theorem contains_insertAll (models : List Model) (name : String) :
    (Registry.empty.insertAll models).contains name = (models.map (·.name)).contains name := by
  rw [contains, names_insertAll, Bool.eq_iff_iff, List.contains_iff_mem, List.contains_iff_mem,
    List.mem_eraseDups]

end Registry

end ModelSchema
