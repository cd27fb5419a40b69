import ModelSchema.Proofs.Spelling.Union

/-!
# Unions inside of unions

A member of a union is no union of its own: alone it is scanned as it was scanned in the union, so
no bar of it stands at depth 0. The column type of a spelling is therefore found after one union at
most has been taken apart, also where a bracket is never closed or was never opened.

## Main definitions

* `Spelling.MapsTo` — the rules for the column type of a spelling, with the number of unions that
  are taken apart for it.

## Main statements

* `Spelling.members_of_mem_members` — a member is its own only member.
* `Spelling.MapsTo.eq_columnType` — the rules give one column type and one number.
* `Spelling.unwraps_once` — the rules lead to the column type of every spelling, and take apart one
  union at most.
-/

namespace ModelSchema

namespace Spelling

open Text

variable {cs m : List Char} {t : ColumnType} {n : Nat}

/-! ## Members of members -/

/-- A member is its own only member. -/
theorem members_of_mem_members (h : m ∈ members cs) : members m = [m] := by
  obtain ⟨ne, trimmed⟩ := trim_of_mem_members h
  exact (members_eq_singleton_iff ne trimmed).2 ((separable_members cs).nested m h)

/-- The single member that is not nullish is no union of its own. -/
theorem members_of_present_eq (h : present (members cs) = [m]) : members m = [m] := by
  have mem : m ∈ present (members cs) := h ▸ List.mem_singleton_self m
  exact members_of_mem_members (List.mem_filter.1 mem).1

/-! ## Rules for column types -/

/-- The column type of a spelling by the rules, and how many unions were taken apart to find it. The
single member of a union that is not nullish is mapped by the same rules. -/
inductive MapsTo : List Char → ColumnType → Nat → Prop where
  | known {cs : List Char} {t : ColumnType} : known? (compact cs) = some t → MapsTo cs t 0
  | container {cs : List Char} : known? (compact cs) = none → (members cs).length < 2 →
    isContainer (compact cs) → MapsTo cs ⟨.json, false⟩ 0
  | other {cs : List Char} : known? (compact cs) = none → (members cs).length < 2 →
    ¬ isContainer (compact cs) → MapsTo cs ⟨.string, false⟩ 0
  | single {cs m : List Char} {t : ColumnType} {n : Nat} : known? (compact cs) = none →
    2 ≤ (members cs).length → present (members cs) = [m] → MapsTo m t n → MapsTo cs t (n + 1)
  | union {cs : List Char} : known? (compact cs) = none → 2 ≤ (members cs).length →
    (present (members cs)).length ≠ 1 →
    MapsTo cs ⟨unionScalar (present (members cs)), false⟩ 1

/-- A spelling that is no union is mapped at once. -/
theorem mapsTo_of_length_lt_two (h : (members cs).length < 2) : MapsTo cs (columnType cs) 0 := by
  have few : ¬ 2 ≤ (members cs).length := Nat.not_le.2 h
  rw [columnType_eq]
  cases known : known? (compact cs) with
  | some t => exact .known known
  | none =>
    simp only [if_neg few]
    split
    · rename_i container
      exact .container known h container
    · rename_i other
      exact .other known h other

/-- A union is mapped by its members that are not nullish; a single one is no union of its own. -/
theorem mapsTo_of_two_le (h : 2 ≤ (members cs).length) : MapsTo cs (columnType cs) 1 := by
  have unknown := known?_of_two_le h
  rw [columnType_of_two_le h]
  by_cases one : (present (members cs)).length = 1
  · obtain ⟨m, same⟩ := List.length_eq_one_iff.1 one
    rw [same]
    refine .single unknown h same (mapsTo_of_length_lt_two ?_)
    simp [members_of_present_eq same]
  · rw [presentType_of_length_ne_one one]
    exact .union unknown h one

theorem MapsTo.eq_columnType (h : MapsTo cs t n) :
    t = columnType cs ∧ n = if 2 ≤ (members cs).length then 1 else 0 := by
  induction h with
  | @known cs t known =>
    have few : ¬ 2 ≤ (members cs).length := fun two => by
      rw [known?_of_two_le two] at known
      cases known
    exact ⟨by rw [columnType_eq, known], (if_neg few).symm⟩
  | container unknown few container =>
    have few := Nat.not_le.2 few
    exact ⟨by simp [columnType_eq, unknown, few, container], (if_neg few).symm⟩
  | other unknown few other =>
    have few := Nat.not_le.2 few
    exact ⟨by simp [columnType_eq, unknown, few, other], (if_neg few).symm⟩
  | @single cs m t n unknown two same _ ih =>
    rw [members_of_present_eq same] at ih
    rw [columnType_of_two_le two, same, if_pos two]
    exact ⟨ih.1, congrArg (· + 1) ih.2⟩
  | union unknown two several =>
    rw [columnType_of_two_le two, presentType_of_length_ne_one several, if_pos two]
    exact ⟨rfl, rfl⟩

/-- Every member of a spelling is trimmed, not empty and its own only member, and a member of two or
more is shorter than the spelling. By the rules every spelling has one column type, and one union at
most is taken apart to find it. -/
theorem unwraps_once (raw : List Char) :
    (∀ m ∈ members raw, m ≠ [] ∧ trim m = m ∧ members m = [m] ∧
      (2 ≤ (members raw).length → m.length < raw.length)) ∧
    ∀ t n, MapsTo raw t n ↔
      t = columnType raw ∧ n = if 2 ≤ (members raw).length then 1 else 0 := by
  refine ⟨fun m h => ?_, fun t n => ⟨MapsTo.eq_columnType, ?_⟩⟩
  · obtain ⟨ne, trimmed⟩ := trim_of_mem_members h
    exact ⟨ne, trimmed, members_of_mem_members h, length_lt_of_mem_members h⟩
  · rintro ⟨rfl, rfl⟩
    split
    · exact mapsTo_of_two_le ‹_›
    · exact mapsTo_of_length_lt_two (Nat.not_le.1 ‹_›)

/-- A union with a bracket that was never opened: behind it no bar stands at depth 0, so the member
with a bar in it is not taken apart again. -/
theorem unwraps_once_unopened :
    let raw := "null | A> | B".toList
    members raw = ["null".toList, "A> | B".toList] ∧
      members "A> | B".toList = ["A> | B".toList] ∧ MapsTo raw ⟨.string, false⟩ 1 := by
  intro raw
  obtain ⟨alone, rules⟩ := unwraps_once raw
  have same : members raw = ["null".toList, "A> | B".toList] := by decide
  exact ⟨same, (alone "A> | B".toList (by rw [same]; decide)).2.2.1,
    (rules _ _).2 ⟨by decide +kernel, by decide⟩⟩

end Spelling

end ModelSchema
