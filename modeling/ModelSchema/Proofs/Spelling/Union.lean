import ModelSchema.Proofs.Registry.References
import ModelSchema.Proofs.Spelling.Members

/-!
# Column types of unions

The tables know no spelling with a bar, so a union of two members or more is mapped by its members
alone. Of these only the ones that are not nullish count, whatever their order, and a single one
counts as if it stood alone.

## Main definitions

* `Spelling.present` — the members that are not nullish.
* `Spelling.presentType` — the column type for members that are not nullish.

## Main statements

* `Spelling.columnType_eq` — the column type of a spelling, told by its members.
* `Spelling.columnType_joinWith` — the column type of closed members put together.
* `Spelling.columnType_joinWith_congr` — it depends on the members that are not nullish only.
-/

namespace ModelSchema

namespace Spelling

open Text

variable {cs m : List Char} {ms ns : List (List Char)}

/-! ## The tables -/

/-- The characters that stand in no spelling that the tables know. -/
def isUnknownMark (c : Char) : Bool := c == '|' || quotes.contains c

/-- No spelling that the tables know holds a bar or a quote. -/
theorem isUnknownMark_of_known? {t : ColumnType} (h : known? cs = some t) {c : Char} (hc : c ∈ cs) :
    isUnknownMark c = false := by
  have scalars : ∀ p ∈ scalarTable, ∀ c ∈ p.1.toList, isUnknownMark c = false := by decide
  have elements : ∀ p ∈ elementTable, ∀ c ∈ p.1.toList, isUnknownMark c = false := by decide
  have key {table : List (String × Scalar)} {cs : List Char} {scalar : Scalar}
      (plain : ∀ p ∈ table, ∀ c ∈ p.1.toList, isUnknownMark c = false)
      (found : table.lookup (String.ofList cs) = some scalar) :
      ∀ c ∈ cs, isUnknownMark c = false := by
    obtain ⟨front, back, same, -⟩ := List.lookup_eq_some_iff.1 found
    simpa using plain (String.ofList cs, scalar) (by simp [same])
  unfold known? at h
  split at h
  · rename_i scalar found
    exact key scalars found c hc
  · obtain ⟨element, array, h⟩ := Option.bind_eq_some_iff.1 h
    obtain ⟨scalar, found, -⟩ := Option.map_eq_some_iff.1 h
    have inside := key elements found
    have brackets : ∀ d ∈ "[]Array<>".toList, isUnknownMark d = false := by decide
    rcases element?_eq_some_iff.1 array with rfl | rfl
    · grind
    · grind

theorem known?_of_mem {c : Char} (h : isUnknownMark c) (hc : c ∈ cs) : known? cs = none := by
  rw [Option.eq_none_iff_forall_ne_some]
  intro t found
  simp [isUnknownMark_of_known? found hc] at h

/-! ## Members that count -/

/-- The members that are not nullish. -/
def present (ms : List (List Char)) : List (List Char) := ms.filter (!isNullish ·)

/-- The column type for members that are not nullish: a single one counts as if it stood alone. -/
def presentType : List (List Char) → ColumnType
  | [only] => columnType only
  | ms => ⟨unionScalar ms, false⟩

theorem presentType_of_length_ne_one (h : ms.length ≠ 1) :
    presentType ms = ⟨unionScalar ms, false⟩ := by
  match ms, h with
  | [], _ => rfl
  | [m], h => exact absurd rfl h
  | _ :: _ :: _, _ => rfl

/-- The order of the members does not matter. -/
theorem presentType_of_perm (h : ms.Perm ns) : presentType ms = presentType ns := by
  have scalar : unionScalar ms = unionScalar ns := by
    simp only [unionScalar, h.any_eq]
  by_cases one : ms.length = 1
  · obtain ⟨m, rfl⟩ := List.length_eq_one_iff.1 one
    rw [List.singleton_perm.1 h]
  · have one' : ns.length ≠ 1 := h.length_eq ▸ one
    rw [presentType_of_length_ne_one one, presentType_of_length_ne_one one', scalar]

/-- The column type of a spelling: by the tables, by the members that count, or by the shape. -/
theorem columnType_eq (cs : List Char) :
    columnType cs = match known? (compact cs) with
      | some t => t
      | none =>
        if 2 ≤ (members cs).length then presentType (present (members cs))
        else if isContainer (compact cs) then ⟨.json, false⟩
        else ⟨.string, false⟩ := by
  rw [columnType]
  cases known? (compact cs) with
  | some t => rfl
  | none =>
    dsimp only
    split
    · split
      · rename_i only same
        rw [present, same, presentType]
      · rename_i more
        rw [presentType]
        · rfl
        · exact more
    · rfl

/-- A spelling with two members or more has a bar. -/
theorem mem_of_two_le (h : 2 ≤ (members cs).length) : '|' ∈ cs := by
  by_contra free
  have few := length_members_le_one (Scan.nestsBars_of_not_mem (s := Scan.start) free)
  omega

/-- The tables know no union. -/
theorem known?_of_two_le (h : 2 ≤ (members cs).length) : known? (compact cs) = none :=
  known?_of_mem (c := '|') (by decide) (List.mem_filter.2 ⟨mem_of_two_le h, by decide⟩)

/-- A union of two members or more is mapped by the members that count. -/
theorem columnType_of_two_le (h : 2 ≤ (members cs).length) :
    columnType cs = presentType (present (members cs)) := by
  rw [columnType_eq, known?_of_two_le h]
  exact if_pos h

/-- Closed members that are put together are mapped by those that count. -/
theorem columnType_joinWith (closed : ∀ m ∈ ms, IsClosed m) (counts : present ms ≠ []) :
    columnType (joinWith " | ".toList ms) = presentType (present ms) := by
  have same := members_of_isClosed (isUnionOf_joinWith ms) closed
  match ms with
  | [] => exact absurd rfl counts
  | [m] =>
    have only : present [m] = [m] := by
      simp only [present, List.filter_cons, List.filter_nil] at counts ⊢
      split <;> simp_all
    rw [joinWith_singleton, only, presentType]
  | m :: n :: ms =>
    rw [columnType_of_two_le (by rw [same]; simp), same]

/-- A union of closed members is mapped by the members that are not nullish, in any order, and
admits null just when it has two members or more and a nullish one among them. -/
theorem columnType_joinWith_congr (closed : ∀ m ∈ ms, IsClosed m) (closed' : ∀ n ∈ ns, IsClosed n)
    (counts : ∃ m ∈ ms, m ≠ "null".toList ∧ m ≠ "undefined".toList)
    (same : (present ms).Perm (present ns)) :
    columnType (joinWith " | ".toList ms) = columnType (joinWith " | ".toList ns) ∧
      (isNullable (joinWith " | ".toList ms) ↔
        2 ≤ ms.length ∧ ∃ m ∈ ms, m = "null".toList ∨ m = "undefined".toList) := by
  have ne : present ms ≠ [] := by
    obtain ⟨m, hm, other⟩ := counts
    exact List.ne_nil_of_mem (List.mem_filter.2 ⟨hm, by simpa [isNullish] using other⟩)
  have ne' : present ns ≠ [] := by
    intro empty
    rw [empty, List.perm_nil] at same
    exact ne same
  constructor
  · rw [columnType_joinWith closed ne, columnType_joinWith closed' ne', presentType_of_perm same]
  · rw [isNullable, members_of_isClosed (isUnionOf_joinWith ms) closed]
    simp [isNullish]

/-- Numbers and an object type, with the nullish members elsewhere and one time more. -/
theorem columnType_joinWith_reordered :
    columnType "undefined | 2 | \x7b a: A | B \x7d | null".toList =
        columnType "\x7b a: A | B \x7d | null | 2".toList ∧
      isNullable "undefined | 2 | \x7b a: A | B \x7d | null".toList := by
  have closed : ∀ m ∈ ["undefined".toList, "2".toList, "\x7b a: A | B \x7d".toList, "null".toList],
      IsClosed m := by decide
  have closed' : ∀ n ∈ ["\x7b a: A | B \x7d".toList, "null".toList, "2".toList],
      IsClosed n := by decide
  have ⟨type, nullable⟩ :=
    columnType_joinWith_congr closed closed' (by decide) (by decide)
  exact ⟨type, nullable.2 (by decide)⟩

end Spelling

end ModelSchema
