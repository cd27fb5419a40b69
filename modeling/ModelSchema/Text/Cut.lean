/-!
# Cutting text into pieces

A text is a list of characters. Cutting it at every character that satisfies a predicate gives
the pieces between those characters, in order; there is always at least one piece.

## Main definitions

* `Text.cut` — the pieces of a text between the characters that satisfy a predicate.
* `Text.joinWith` — pieces put together with a separator between neighbours.
* `Text.contains` — whether one text occurs in another.
-/

namespace ModelSchema.Text

/-- The pieces of `cs` between the characters that satisfy `p`. -/
def cut (p : Char → Bool) : List Char → List (List Char)
  | [] => [[]]
  | c :: cs =>
    if p c then [] :: cut p cs
    else match cut p cs with
      | [] => [[c]]
      | piece :: pieces => (c :: piece) :: pieces

theorem cut_ne_nil (p : Char → Bool) (cs : List Char) : cut p cs ≠ [] := by
  cases cs with
  | nil => simp [cut]
  | cons c cs =>
    simp only [cut]
    split
    · simp
    · split <;> simp

/-- A character that does not satisfy `p` extends the first piece. -/
theorem cut_cons_of_not {p : Char → Bool} {c : Char} (h : p c = false) (cs : List Char) :
    ∃ piece pieces, cut p cs = piece :: pieces ∧ cut p (c :: cs) = (c :: piece) :: pieces := by
  cases hc : cut p cs with
  | nil => exact absurd hc (cut_ne_nil p cs)
  | cons piece pieces => exact ⟨piece, pieces, rfl, by simp [cut, h, hc]⟩

/-- No piece holds a character at which the text was cut. -/
theorem not_of_mem_cut {p : Char → Bool} {cs piece : List Char} (h : piece ∈ cut p cs)
    {c : Char} (hc : c ∈ piece) : p c = false := by
  induction cs generalizing piece with
  | nil => simp [cut] at h; simp [h] at hc
  | cons d cs ih =>
    cases hd : p d with
    | true =>
      simp only [cut, hd, if_true, List.mem_cons] at h
      rcases h with rfl | h
      · simp at hc
      · exact ih h hc
    | false =>
      obtain ⟨first, rest, h₁, h₂⟩ := cut_cons_of_not hd cs
      rw [h₂, List.mem_cons] at h
      rcases h with rfl | h
      · rcases List.mem_cons.1 hc with rfl | hc
        · exact hd
        · exact ih (by rw [h₁]; exact List.mem_cons_self) hc
      · exact ih (by rw [h₁]; exact List.mem_cons_of_mem _ h) hc

/-- The pieces with `sep` between each two neighbours. -/
def joinWith (sep : List Char) (pieces : List (List Char)) : List Char :=
  sep.intercalate pieces

/-- Whether `part` occurs in `cs` as a contiguous piece. -/
def contains (part : List Char) : List Char → Bool
  | [] => part.isEmpty
  | c :: cs => part.isPrefixOf (c :: cs) || contains part cs

/-- `cs` without `part` at its front, as often as it stands there. -/
def dropAllAtFront (part : List Char) (cs : List Char) : List Char :=
  if _h : part ≠ [] ∧ part.isPrefixOf cs then
    dropAllAtFront part (cs.drop part.length)
  else cs
termination_by cs.length
decreasing_by
  obtain ⟨hne, hp⟩ := _h
  have hle := (List.isPrefixOf_iff_prefix.1 hp).length_le
  have hpos := List.length_pos_iff.2 hne
  simp only [List.length_drop]
  omega

/-- `cs` without `part` at its end, as often as it stands there. -/
def dropAllAtEnd (part : List Char) (cs : List Char) : List Char :=
  (dropAllAtFront part.reverse cs.reverse).reverse

end ModelSchema.Text
