import Mathlib.Data.List.Basic
import ModelSchema.Text.LowerCase

/-!
# Laws of lower case

The lower-case form of a text is made of the forms of its characters, none of which is empty. The
letters `i` and `d` end the form of their own capital and of no other character, so whether a text
ends in `id` can be told from its lower-case form.

## Main statements

* `Text.lowerChar_getLast?_iff` — which characters have a form that ends in `i` or `d`.
* `Text.exists_lowerAfter_cons`, `Text.exists_lowerAfter_append` — the form of the front of a text.
* `Text.exists_of_lower_eq_append_id`, `Text.exists_lower_append_id` — texts that end in `id`.
-/

namespace ModelSchema.Text

/-- Runs with letters beyond ASCII lead beyond the letter `i`. -/
theorem lt_of_shift?_lowerRuns {run : LowerRun} (h : run ∈ lowerRuns) {n m : Nat}
    (beyond : 0x80 ≤ n) (shift : run.shift? n = some m) : 'i'.toNat < m := by
  have far : ∀ run ∈ lowerRuns, run.last < 0x80 ∨ 'i'.toNat < run.target := by decide +kernel
  unfold LowerRun.shift? at shift
  split at shift
  · rename_i within
    obtain rfl := Option.some.inj shift
    have := far run h
    omega
  · cases shift

/-- Beyond ASCII a character is no capital of an ASCII letter. -/
theorem toLower_of_le {c : Char} (beyond : 0x80 ≤ c.toNat) : c.toLower = c := by
  unfold Char.toLower
  rw [dif_neg]
  rintro ⟨-, le⟩
  have within : c.toNat ≤ 'Z'.toNat := UInt32.le_iff_toNat_le.1 le
  have ascii : 'Z'.toNat < 0x80 := by decide
  omega

/-- A number that is not the number of a character gives the first character. -/
theorem toNat_ofNat (n : Nat) : (Char.ofNat n).toNat = n ∨ (Char.ofNat n).toNat = 0 := by
  by_cases valid : n.isValidChar
  · rw [Char.ofNat, dif_pos valid]
    exact .inl rfl
  · rw [Char.ofNat, dif_neg valid]
    exact .inr rfl

/-- The letters `i` and `d` end the forms of themselves and of their capitals. -/
theorem lowerChar_getLast?_iff {c x : Char} (hx : x = 'i' ∨ x = 'd') :
    (lowerChar c).getLast? = some x ↔ c.toLower = x := by
  have small : x.toNat ≤ 'i'.toNat ∧ x.toNat ≠ 0 := by rcases hx with rfl | rfl <;> decide
  unfold lowerChar
  split
  · simp
  · rename_i beyond
    rw [toLower_of_le (Nat.le_of_not_lt beyond)]
    have other : c ≠ x := by
      rintro rfl
      have : 'i'.toNat < 0x80 := by decide
      omega
    refine iff_of_false (fun last => ?_) other
    split at last
    · have : x = Char.ofNat 0x307 := by simpa [eq_comm] using last
      rcases hx with rfl | rfl <;> exact absurd this (by decide)
    · split at last
      · rename_i n found
        obtain ⟨run, hrun, shift⟩ := List.exists_of_findSome?_eq_some found
        have far := lt_of_shift?_lowerRuns hrun (Nat.le_of_not_lt beyond) shift
        have same : Char.ofNat n = x := by simpa using last
        rw [← same] at small
        have := toNat_ofNat n
        omega
      · exact other (by simpa using last)

theorem lowerChar_of_toLower {c x : Char} (hx : x = 'i' ∨ x = 'd') (h : c.toLower = x) :
    lowerChar c = [x] := by
  have ascii : c.toNat < 0x80 := by
    by_contra beyond
    rw [toLower_of_le (Nat.le_of_not_lt beyond)] at h
    subst h
    rcases hx with rfl | rfl <;> exact beyond (by decide)
  rw [lowerChar, if_pos ascii, h]

theorem lowerChar_ne_nil (c : Char) : lowerChar c ≠ [] := by
  unfold lowerChar
  repeat' split
  all_goals simp

/-- A first character has a form of its own, which ends in `i` or `d` just when the character is
that letter, small or capital, and then it is that letter alone. -/
theorem exists_lowerAfter_cons (before : List Char) (c : Char) (cs : List Char) :
    ∃ form, lowerAfter before (c :: cs) = form ++ lowerAfter (c :: before) cs ∧ form ≠ [] ∧
      ∀ x, x = 'i' ∨ x = 'd' →
        (form.getLast? = some x → c.toLower = x) ∧ (c.toLower = x → form = [x]) := by
  refine ⟨_, rfl, ?_, fun x hx => ?_⟩
  · split
    · split <;> simp
    · exact lowerChar_ne_nil c
  · by_cases sigma : c = 'Σ'
    · -- Neither form of sigma is one of the letters, nor is sigma itself.
      subst sigma
      rw [if_pos rfl]
      split <;> rcases hx with rfl | rfl <;> decide
    · rw [if_neg sigma]
      exact ⟨(lowerChar_getLast?_iff hx).1, lowerChar_of_toLower hx⟩

/-- The form of the front of a text is not empty unless the front is. -/
theorem exists_lowerAfter_append (before front cs : List Char) :
    ∃ form, lowerAfter before (front ++ cs) = form ++ lowerAfter (front.reverse ++ before) cs ∧
      (form = [] ↔ front = []) := by
  induction front generalizing before with
  | nil => exact ⟨[], rfl, by simp⟩
  | cons c front ih =>
    obtain ⟨form, hform, ne, -⟩ := exists_lowerAfter_cons before c (front ++ cs)
    obtain ⟨rest, hrest, -⟩ := ih (c :: before)
    refine ⟨form ++ rest, ?_, by simp [ne]⟩
    rw [List.cons_append, hform, hrest, List.append_assoc, List.reverse_cons, List.append_assoc,
      List.singleton_append]

theorem lower_eq_nil_iff {cs : List Char} : lower cs = [] ↔ cs = [] := by
  obtain ⟨form, hform, nil⟩ := exists_lowerAfter_append [] cs []
  rw [lower, ← nil, ← List.append_nil cs, hform, lowerAfter, List.append_nil]

/-- If the form of the front of a text ends in `i` or `d`, then so does the front in some letter
case, and the rest of the form is that of what stands before the letter. -/
theorem exists_concat_of_form_concat {before cs tail form : List Char} {x : Char}
    (hx : x = 'i' ∨ x = 'd')
    (h : lowerAfter before (cs ++ tail) = form ++ [x] ++ lowerAfter (cs.reverse ++ before) tail) :
    ∃ front c, cs = front ++ [c] ∧ c.toLower = x ∧
      lowerAfter before (front ++ c :: tail) =
        form ++ lowerAfter (front.reverse ++ before) (c :: tail) := by
  obtain rfl | ⟨front, c, rfl⟩ := List.eq_nil_or_concat' cs
  · have lengths := congrArg List.length h
    simp at lengths
    omega
  obtain ⟨form₁, hform₁, -⟩ := exists_lowerAfter_append before front (c :: tail)
  obtain ⟨form₂, hform₂, ne, ends⟩ := exists_lowerAfter_cons (front.reverse ++ before) c tail
  have parts : form₁ ++ form₂ = form ++ [x] := by
    rw [List.append_assoc, List.singleton_append, hform₁, hform₂, List.reverse_append,
      ← List.append_assoc] at h
    exact (List.append_left_inj _).1 h
  have last : form₂.getLast? = some x := by
    have whole := congrArg List.getLast? parts
    rwa [List.getLast?_append_of_ne_nil _ ne, List.getLast?_concat] at whole
  have letter := (ends x hx).1 last
  rw [(ends x hx).2 letter] at parts
  exact ⟨front, c, rfl, letter, (List.append_left_inj [x]).1 parts ▸ hform₁⟩

/-- A text whose lower-case form ends in `id` does so in some letter case. -/
theorem exists_of_lower_eq_append_id {cs form : List Char} (h : lower cs = form ++ ['i', 'd']) :
    ∃ front i d, cs = front ++ [i, d] ∧ i.toLower = 'i' ∧ d.toLower = 'd' ∧
      (form = [] ↔ front = []) := by
  have whole : lowerAfter [] (cs ++ []) =
      form ++ ['i'] ++ ['d'] ++ lowerAfter (cs.reverse ++ []) [] := by
    simpa [lower, lowerAfter] using h
  obtain ⟨front, d, rfl, hd, rest⟩ := exists_concat_of_form_concat (.inr rfl) whole
  obtain ⟨front, i, rfl, hi, rest⟩ := exists_concat_of_form_concat (.inl rfl) rest
  obtain ⟨form', hform', nil⟩ := exists_lowerAfter_append [] front [i, d]
  rw [hform'] at rest
  exact ⟨front, i, d, by simp, hi, hd, (List.append_left_inj _).1 rest ▸ nil⟩

/-- A text that ends in `id` in some letter case has a lower-case form that does. -/
theorem exists_lower_append_id (front : List Char) {i d : Char} (hi : i.toLower = 'i')
    (hd : d.toLower = 'd') :
    ∃ form, lower (front ++ [i, d]) = form ++ ['i', 'd'] ∧ (form = [] ↔ front = []) := by
  obtain ⟨form, hform, nil⟩ := exists_lowerAfter_append [] front [i, d]
  obtain ⟨formi, hformi, -, endi⟩ := exists_lowerAfter_cons (front.reverse ++ []) i [d]
  obtain ⟨formd, hformd, -, endd⟩ := exists_lowerAfter_cons (i :: (front.reverse ++ [])) d []
  rw [(endi 'i' (.inl rfl)).2 hi] at hformi
  rw [(endd 'd' (.inr rfl)).2 hd] at hformd
  refine ⟨form, ?_, nil⟩
  rw [lower, hform, hformi, hformd]
  simp [lowerAfter]

end ModelSchema.Text
