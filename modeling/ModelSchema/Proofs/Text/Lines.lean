import Mathlib.Data.List.DropRight
import ModelSchema.Text.Lines

/-!
# Laws of lines

Cutting a text at line feeds undoes putting lines together. Trimming the end of every line can be
told character by character from the end of the text, which is how the laws of trimmed text are
proved.

## Main definitions

* `Text.trimLines` — a text without the blanks at the ends of its lines.

## Main statements

* `Text.cut_append_cons`, `Text.cut_joinWith`, `Text.cut_unlines` — the pieces of a text put
  together.
* `Text.cut_inj` — a text is told by its pieces.
* `Text.trimEnd_unlines` — trimming the end of a text drops the empty lines there.
* `Text.trimLines_cons` — one more character at the front of a trimmed text.
* `Text.trimLines_trimLines` — trimming is idempotent.
* `Text.trimLines_trimEnd` — the end of a text can be trimmed before its lines or after them.
* `Text.exists_trimLines_blanks` — blanks in front of a word stay blanks.
-/

namespace ModelSchema.Text

/-! ## Pieces -/

section Cut

variable {p : Char → Bool} {c : Char}

theorem cut_cons_of_pos (h : p c = true) (cs : List Char) : cut p (c :: cs) = [] :: cut p cs := by
  simp [cut, h]

/-- A text falls apart at a character at which it is cut. -/
theorem cut_append_cons (h : p c = true) (a b : List Char) :
    cut p (a ++ c :: b) = cut p a ++ cut p b := by
  induction a with
  | nil => simp [cut, h]
  | cons d a ih =>
    rw [List.cons_append]
    cases hd : p d with
    | true => rw [cut_cons_of_pos hd, cut_cons_of_pos hd, ih, List.cons_append]
    | false =>
      obtain ⟨piece, pieces, ha, hda⟩ := cut_cons_of_not hd a
      simp [cut, hd, ih, ha]

/-- A text without such a character is a single piece. -/
theorem cut_of_forall_not {cs : List Char} (h : ∀ d ∈ cs, p d = false) : cut p cs = [cs] := by
  induction cs with
  | nil => rfl
  | cons d cs ih =>
    rw [cut, ih fun e he => h e (List.mem_cons_of_mem _ he)]
    simp [h d List.mem_cons_self]

/-- Where two texts meet, the last piece of the one and the first piece of the other are one. -/
theorem exists_cut_append (p : Char → Bool) (a b : List Char) :
    ∃ front last first back, cut p a = front ++ [last] ∧ cut p b = first :: back ∧
      cut p (a ++ b) = front ++ (last ++ first) :: back := by
  induction a with
  | nil =>
    obtain ⟨first, back, hb⟩ := List.exists_cons_of_ne_nil (cut_ne_nil p b)
    exact ⟨[], [], first, back, rfl, hb, hb⟩
  | cons d a ih =>
    obtain ⟨front, last, first, back, ha, hb, hab⟩ := ih
    cases hd : p d with
    | true =>
      refine ⟨[] :: front, last, first, back, ?_, hb, ?_⟩
      · rw [cut_cons_of_pos hd, ha, List.cons_append]
      · rw [List.cons_append, cut_cons_of_pos hd, hab, List.cons_append]
    | false =>
      cases front with
      | nil => exact ⟨[], d :: last, first, back, by simp [cut, hd, ha], hb, by simp [cut, hd, hab]⟩
      | cons piece front =>
        exact ⟨(d :: piece) :: front, last, first, back, by simp [cut, hd, ha], hb,
          by simp [cut, hd, hab]⟩

/-- The pieces of the front of a text start pieces of the text. -/
theorem exists_mem_cut_of_isPrefix {a b piece : List Char} (hab : a <+: b) (h : piece ∈ cut p a) :
    ∃ whole ∈ cut p b, piece <+: whole := by
  obtain ⟨rest, rfl⟩ := hab
  obtain ⟨front, last, first, back, ha, -, hab⟩ := exists_cut_append p a rest
  rw [ha, List.mem_append, List.mem_singleton] at h
  rw [hab]
  rcases h with h | rfl
  · exact ⟨piece, by simp [h], List.prefix_rfl⟩
  · exact ⟨piece ++ first, by simp, List.prefix_append piece first⟩

end Cut

theorem joinWith_cons (sep piece : List Char) {pieces : List (List Char)} (h : pieces ≠ []) :
    joinWith sep (piece :: pieces) = piece ++ sep ++ joinWith sep pieces := by
  simp [joinWith, List.intercalate_cons_of_ne_nil h]

@[simp] theorem joinWith_singleton (sep piece : List Char) : joinWith sep [piece] = piece := by
  simp [joinWith]

theorem joinWith_append (sep : List Char) {front back : List (List Char)} (hf : front ≠ [])
    (hb : back ≠ []) :
    joinWith sep (front ++ back) = joinWith sep front ++ sep ++ joinWith sep back := by
  induction front with
  | nil => exact absurd rfl hf
  | cons piece front ih =>
    rw [List.cons_append, joinWith_cons sep piece (by simp [hb])]
    by_cases hnil : front = []
    · simp [hnil]
    · rw [ih hnil, joinWith_cons sep piece hnil]
      simp

/-- Pieces put together with a character at which they are cut come apart into the pieces of
each. -/
theorem cut_joinWith_flatMap {p : Char → Bool} {c : Char} (h : p c = true)
    {pieces : List (List Char)} (hne : pieces ≠ []) :
    cut p (joinWith [c] pieces) = pieces.flatMap (cut p) := by
  induction pieces with
  | nil => exact absurd rfl hne
  | cons piece pieces ih =>
    by_cases hnil : pieces = []
    · simp [hnil]
    · rw [joinWith_cons _ _ hnil, List.append_assoc, List.singleton_append, cut_append_cons h,
        List.flatMap_cons, ih hnil]

/-- Pieces without the character that they are put together with come apart again. -/
theorem cut_joinWith {p : Char → Bool} {c : Char} (h : p c = true) {pieces : List (List Char)}
    (hne : pieces ≠ []) (whole : ∀ piece ∈ pieces, ∀ d ∈ piece, p d = false) :
    cut p (joinWith [c] pieces) = pieces := by
  rw [cut_joinWith_flatMap h hne,
    List.flatMap_congr fun piece hp => cut_of_forall_not (whole piece hp)]
  exact List.flatMap_singleton' pieces

/-- Some pieces put together are in front of what they start. -/
theorem joinWith_isPrefix (sep : List Char) {front whole : List (List Char)} (h : front <+: whole) :
    joinWith sep front <+: joinWith sep whole := by
  obtain ⟨back, rfl⟩ := h
  by_cases hf : front = []
  · rw [hf]
    exact List.nil_prefix
  · by_cases hb : back = []
    · simp [hb]
    · rw [joinWith_append sep hf hb, List.append_assoc]
      exact List.prefix_append _ _

/-- A text without line feeds is one line. -/
def IsLine (cs : List Char) : Prop := '\n' ∉ cs

instance (cs : List Char) : Decidable (IsLine cs) := inferInstanceAs (Decidable (_ ∉ _))

theorem IsLine.append {a b : List Char} (ha : IsLine a) (hb : IsLine b) : IsLine (a ++ b) := by
  simp only [IsLine, List.mem_append, not_or]
  exact ⟨ha, hb⟩

theorem cut_of_isLine {cs : List Char} (h : IsLine cs) : cut (· == '\n') cs = [cs] :=
  cut_of_forall_not fun c hc => by
    rw [beq_eq_false_iff_ne]
    rintro rfl
    exact h hc

theorem isLine_of_mem_cut {cs piece : List Char} (h : piece ∈ cut (· == '\n') cs) :
    IsLine piece := fun hc => by simpa using not_of_mem_cut h hc

/-- Texts put together with line feeds come apart into the lines of each. -/
theorem cut_unlines_flatMap {ls : List (List Char)} (hne : ls ≠ []) :
    cut (· == '\n') (unlines ls) = ls.flatMap (cut (· == '\n')) :=
  cut_joinWith_flatMap (by rfl) hne

/-- Lines that were put together come apart again. -/
theorem cut_unlines {ls : List (List Char)} (hne : ls ≠ []) (h : ∀ l ∈ ls, IsLine l) :
    cut (· == '\n') (unlines ls) = ls := by
  rw [cut_unlines_flatMap hne, List.flatMap_congr fun l hl => cut_of_isLine (h l hl)]
  exact List.flatMap_singleton' ls

/-- The pieces between line feeds with a line feed behind each of them. -/
theorem flatMap_cut (cs : List Char) :
    (cut (· == '\n') cs).flatMap (· ++ ['\n']) = cs ++ ['\n'] := by
  induction cs with
  | nil => rfl
  | cons c cs ih =>
    by_cases hc : c = '\n'
    · rw [hc, cut_cons_of_pos (by rfl), List.flatMap_cons, ih]
      rfl
    · have feed : (c == '\n') = false := by simp [hc]
      obtain ⟨piece, pieces, h, hcons⟩ := cut_cons_of_not (p := (· == '\n')) feed cs
      rw [h, List.flatMap_cons] at ih
      rw [hcons, List.flatMap_cons, List.cons_append, List.cons_append, ih, List.cons_append]

theorem cut_inj {a b : List Char} : cut (· == '\n') a = cut (· == '\n') b ↔ a = b := by
  refine ⟨fun h => ?_, congrArg _⟩
  have ended := congrArg (·.flatMap (· ++ ['\n'])) h
  simp only [flatMap_cut] at ended
  exact List.append_cancel_right ended

/-- A text is put together from its pieces. -/
theorem unlines_cut (cs : List Char) : unlines (cut (· == '\n') cs) = cs :=
  cut_inj.1 (cut_unlines (cut_ne_nil _ _) fun _ => isLine_of_mem_cut)

theorem dropReturn_isPrefix (cs : List Char) : dropReturn cs <+: cs := by
  unfold dropReturn
  split
  · exact List.dropLast_prefix cs
  · exact List.prefix_rfl

/-- Pieces with others behind them were ended by a line feed. -/
theorem endedLines_append (front : List (List Char)) {back : List (List Char)} (hb : back ≠ []) :
    endedLines (front ++ back) = front.map dropReturn ++ endedLines back := by
  induction front with
  | nil => rfl
  | cons piece front ih =>
    obtain ⟨first, rest, h⟩ := List.exists_cons_of_ne_nil (l := front ++ back) (by simp [hb])
    rw [List.map_cons, List.cons_append, List.cons_append, ← ih, h, endedLines]
    exact fun h => by cases h

/-- The lines of a text whose first part ends with a line feed. -/
theorem lines_append_cons (a b : List Char) :
    lines (a ++ '\n' :: b) = (cut (· == '\n') a).map dropReturn ++ lines b := by
  rw [lines, cut_append_cons (by rfl), endedLines_append _ (cut_ne_nil _ _), lines]

theorem endedLines_eq_self {ls : List (List Char)} (h : ∀ l ∈ ls, l ≠ [] ∧ dropReturn l = l) :
    endedLines ls = ls := by
  fun_induction endedLines ls with
  | case1 => rfl
  | case2 last empty => exact absurd (List.isEmpty_iff.1 empty) (h last List.mem_cons_self).1
  | case3 last => rfl
  | case4 piece rest _ ih =>
    rw [(h piece List.mem_cons_self).2, ih fun l hl => h l (List.mem_cons_of_mem _ hl)]

/-- Lines that are put together are the lines of the text, unless one is empty or ends in a carriage
return. -/
theorem lines_unlines {ls : List (List Char)}
    (h : ∀ l ∈ ls, IsLine l ∧ l ≠ [] ∧ dropReturn l = l) : lines (unlines ls) = ls := by
  by_cases hnil : ls = []
  · rw [hnil]
    rfl
  · rw [lines, cut_unlines hnil fun l hl => (h l hl).1, endedLines_eq_self fun l hl => (h l hl).2]

theorem isLine_of_mem_lines {cs line : List Char} (h : line ∈ lines cs) : IsLine line := by
  have pieces : ∀ ps : List (List Char), (∀ piece ∈ ps, IsLine piece) →
      ∀ line ∈ endedLines ps, IsLine line := by
    intro ps hps line hline
    fun_induction endedLines ps with
    | case1 => cases hline
    | case2 last => cases hline
    | case3 last =>
      obtain rfl := List.mem_singleton.1 hline
      exact hps _ List.mem_cons_self
    | case4 piece rest _ ih =>
      rcases List.mem_cons.1 hline with rfl | hline
      · exact fun hm => hps piece List.mem_cons_self ((dropReturn_isPrefix piece).subset hm)
      · exact ih (fun piece hp => hps piece (List.mem_cons_of_mem _ hp)) hline
  exact pieces _ (fun piece => isLine_of_mem_cut) line h

/-- A piece of a text is empty or a line of it, but for a carriage return at its end. -/
theorem mem_lines_of_mem_cut {cs piece : List Char} (h : piece ∈ cut (· == '\n') cs) :
    piece = [] ∨ piece ∈ lines cs ∨ dropReturn piece ∈ lines cs := by
  unfold lines
  generalize cut (· == '\n') cs = pieces at h
  fun_induction endedLines pieces with
  | case1 => cases h
  | case2 last empty =>
    obtain rfl := List.mem_singleton.1 h
    exact .inl (List.isEmpty_iff.1 empty)
  | case3 last =>
    obtain rfl := List.mem_singleton.1 h
    exact .inr (.inl List.mem_cons_self)
  | case4 first rest _ ih =>
    rcases List.mem_cons.1 h with rfl | h
    · exact .inr (.inr List.mem_cons_self)
    · exact (ih h).imp_right (Or.imp (List.mem_cons_of_mem _) (List.mem_cons_of_mem _))

/-! ## Ends of lines -/

/-- Trimming drops a character at the front only with everything behind it. -/
theorem trimEnd_cons (c : Char) (cs : List Char) :
    trimEnd (c :: cs) = if isBlank c ∧ trimEnd cs = [] then [] else c :: trimEnd cs := by
  have reverse : trimEnd cs = (cs.reverse.dropWhile isBlank).reverse := rfl
  rw [reverse, trimEnd, trimEndBy, List.reverse_cons, List.dropWhile_append]
  by_cases h : cs.reverse.dropWhile isBlank = []
  · by_cases hc : isBlank c = true <;> simp [h, hc]
  · simp [h]

theorem trimEnd_isPrefix (cs : List Char) : trimEnd cs <+: cs := List.rdropWhile_prefix isBlank cs

theorem trimEnd_eq_nil_iff {cs : List Char} : trimEnd cs = [] ↔ ∀ c ∈ cs, isBlank c = true :=
  List.rdropWhile_eq_nil_iff

theorem trimEnd_trimEnd (cs : List Char) : trimEnd (trimEnd cs) = trimEnd cs :=
  List.rdropWhile_idempotent isBlank cs

/-- A trimmed text ends in a character that is no blank. -/
theorem exists_trimEnd_eq {cs : List Char} (h : trimEnd cs ≠ []) :
    ∃ front c, trimEnd cs = front ++ [c] ∧ isBlank c = false := by
  have last : ¬ isBlank ((trimEnd cs).getLast h) = true := List.rdropWhile_last_not isBlank cs h
  exact ⟨(trimEnd cs).dropLast, (trimEnd cs).getLast h, (List.dropLast_append_getLast h).symm,
    by simpa using last⟩

/-- No carriage return is left behind a trimmed text. -/
theorem dropReturn_trimEnd (cs : List Char) : dropReturn (trimEnd cs) = trimEnd cs := by
  by_cases h : trimEnd cs = []
  · rw [h]
    rfl
  · obtain ⟨front, c, same, other⟩ := exists_trimEnd_eq h
    have kept : c ≠ '\r' := by
      rintro rfl
      exact absurd other (by decide)
    simp [same, dropReturn, kept]

/-- Trimming leaves everything up to a character that is no blank. -/
theorem trimEnd_append_cons {c : Char} (h : isBlank c = false) (a b : List Char) :
    trimEnd (a ++ c :: b) = a ++ c :: trimEnd b := by
  induction a with
  | nil => simp [trimEnd_cons, h]
  | cons d a ih => simp [trimEnd_cons, ih]

/-- A text that is put together from lines ends in the last of them. -/
theorem exists_unlines_concat (front : List (List Char)) (last : List Char) :
    ∃ before, unlines (front ++ [last]) = before ++ last := by
  by_cases none : front = []
  · exact ⟨[], by rw [none, unlines, List.nil_append, joinWith_singleton, List.nil_append]⟩
  · exact ⟨unlines front ++ ['\n'], by
      rw [unlines, unlines, joinWith_append _ none (by simp), joinWith_singleton]⟩

/-- The line feed in front of an empty last line is trimmed away. -/
theorem trimEnd_unlines_concat_nil (front : List (List Char)) :
    trimEnd (unlines (front ++ [[]])) = trimEnd (unlines front) := by
  by_cases none : front = []
  · rw [none]
    rfl
  · rw [unlines, unlines, joinWith_append _ none (by simp), joinWith_singleton, List.append_nil]
    exact List.rdropWhile_concat_pos isBlank _ '\n' (by decide)

/-- With the end of a text go those of its trimmed lines that are empty. -/
theorem trimEnd_unlines {ls : List (List Char)} (h : ∀ l ∈ ls, trimEnd l = l) :
    trimEnd (unlines ls) = unlines (ls.rdropWhile List.isEmpty) := by
  induction ls using List.reverseRecOn with
  | nil => rfl
  | append_singleton front last ih =>
    have ih := ih fun l hl => h l (List.mem_append_left _ hl)
    have trimmed := h last (by simp)
    by_cases empty : last = []
    · rw [List.rdropWhile_concat_pos _ _ _ (by simp [empty]), ← ih, empty,
        trimEnd_unlines_concat_nil]
    · rw [List.rdropWhile_concat_neg _ _ _ (by simpa using empty)]
      obtain ⟨text, c, same, other⟩ := exists_trimEnd_eq (show trimEnd last ≠ [] by rwa [trimmed])
      obtain ⟨before, whole⟩ := exists_unlines_concat front last
      rw [whole, ← trimmed, same, ← List.append_assoc, trimEnd_append_cons other]
      rfl

/-- A text without the blanks at the ends of its lines. -/
def trimLines (cs : List Char) : List Char := unlines ((cut (· == '\n') cs).map trimEnd)

/-- Whether a line ends at the front of a text. -/
def endsLine (cs : List Char) : Bool := cs.head?.all (· == '\n')

theorem endsLine_unlines_cons {l : List Char} (h : IsLine l) (ls : List (List Char)) :
    endsLine (unlines (l :: ls)) = l.isEmpty := by
  cases l with
  | nil => cases ls <;> rfl
  | cons c l =>
    have hc : c ≠ '\n' := fun hc => h (by simp [hc])
    rw [unlines, joinWith, List.intercalate_cons_cons_left]
    simp [endsLine, hc]

@[simp] theorem trimLines_nil : trimLines [] = [] := rfl

/-- Trimming the lines drops a character at the front if it is a blank behind which only blanks
stood in its line. -/
theorem trimLines_cons (c : Char) (cs : List Char) :
    trimLines (c :: cs) =
      if c ≠ '\n' ∧ isBlank c ∧ endsLine (trimLines cs) then trimLines cs
      else c :: trimLines cs := by
  by_cases hc : c = '\n'
  · have hne : (cut (· == '\n') cs).map trimEnd ≠ [] := by simp [cut_ne_nil]
    rw [if_neg fun h => h.1 hc, hc, trimLines, cut_cons_of_pos (by rfl), List.map_cons, unlines,
      joinWith_cons _ _ hne]
    rfl
  · have hfeed : (c == '\n') = false := by simp [hc]
    obtain ⟨piece, pieces, h, hcons⟩ := cut_cons_of_not (p := (· == '\n')) hfeed cs
    have line : IsLine (trimEnd piece) := fun hm =>
      isLine_of_mem_cut (h ▸ List.mem_cons_self) ((trimEnd_isPrefix piece).subset hm)
    simp only [trimLines, hcons, h, List.map_cons, trimEnd_cons, endsLine_unlines_cons line]
    by_cases hnil : trimEnd piece = []
    · by_cases hb : isBlank c = true <;> simp [hc, hb, hnil]
      rw [unlines, joinWith, List.intercalate_cons_cons_left]
      rfl
    · simp only [hnil, and_false, if_false, List.isEmpty_iff]
      rw [unlines, joinWith, List.intercalate_cons_cons_left]
      rfl

@[simp] theorem trimLines_feed (cs : List Char) :
    trimLines ('\n' :: cs) = '\n' :: trimLines cs := by
  simp [trimLines_cons]

/-- The lines of a trimmed text are the trimmed lines of the text. -/
theorem cut_trimLines (cs : List Char) :
    cut (· == '\n') (trimLines cs) = (cut (· == '\n') cs).map trimEnd := by
  refine cut_unlines (by simp [cut_ne_nil]) ?_
  intro l hl
  obtain ⟨piece, hp, rfl⟩ := List.mem_map.1 hl
  exact fun hm => isLine_of_mem_cut hp ((trimEnd_isPrefix piece).subset hm)

/-- A single line is trimmed at its end. -/
theorem trimLines_of_isLine {cs : List Char} (h : IsLine cs) : trimLines cs = trimEnd cs := by
  rw [trimLines, cut_of_isLine h, List.map_singleton, unlines, joinWith_singleton]

/-- A word at the front of a text stays as it is. -/
theorem trimLines_append_of_not_blank {word : List Char} (h : ∀ c ∈ word, isBlank c = false)
    (cs : List Char) : trimLines (word ++ cs) = word ++ trimLines cs := by
  induction word with
  | nil => rfl
  | cons c word ih =>
    rw [List.cons_append, trimLines_cons, ih fun d hd => h d (List.mem_cons_of_mem _ hd)]
    simp [h c List.mem_cons_self]

/-- The lines on both sides of a line feed are trimmed apart. -/
theorem trimLines_append_feed (a b : List Char) :
    trimLines (a ++ '\n' :: b) = trimLines a ++ '\n' :: trimLines b := by
  induction a with
  | nil => simp
  | cons c a ih =>
    have same : endsLine (trimLines a ++ '\n' :: trimLines b) = endsLine (trimLines a) := by
      cases trimLines a <;> rfl
    rw [List.cons_append, trimLines_cons, trimLines_cons, ih, same]
    split <;> rfl

/-- The front of a text does not change how the lines behind it are trimmed. -/
theorem trimLines_append_congr (front : List Char) {a b : List Char}
    (h : trimLines a = trimLines b) : trimLines (front ++ a) = trimLines (front ++ b) := by
  induction front with
  | nil => exact h
  | cons c front ih => rw [List.cons_append, List.cons_append, trimLines_cons, trimLines_cons, ih]

theorem trimLines_trimLines (cs : List Char) : trimLines (trimLines cs) = trimLines cs := by
  induction cs with
  | nil => rfl
  | cons c cs ih =>
    rw [trimLines_cons]
    split
    · exact ih
    · rename_i h
      rw [trimLines_cons, ih, if_neg h]

theorem mem_trimLines {c : Char} (h : isBlank c = false) {cs : List Char} :
    c ∈ trimLines cs ↔ c ∈ cs := by
  induction cs with
  | nil => simp
  | cons d cs ih =>
    rw [trimLines_cons]
    split
    · rename_i hd
      have other : c ≠ d := by
        rintro rfl
        simp [h] at hd
      simp [ih, other]
    · simp [ih]

/-- Only blanks are left of a text of blanks. -/
theorem trimEnd_trimLines_eq_nil_iff {cs : List Char} :
    trimEnd (trimLines cs) = [] ↔ trimEnd cs = [] := by
  simp only [trimEnd_eq_nil_iff]
  constructor
  · intro h c hc
    by_contra blank
    exact blank (h c ((mem_trimLines (by simpa using blank)).2 hc))
  · intro h c hc
    by_contra blank
    exact blank (h c ((mem_trimLines (by simpa using blank)).1 hc))

/-- The end of a text can be trimmed before its lines or after them. -/
theorem trimLines_trimEnd (cs : List Char) : trimLines (trimEnd cs) = trimEnd (trimLines cs) := by
  induction cs with
  | nil => rfl
  | cons c cs ih =>
    by_cases hend : isBlank c = true ∧ trimEnd cs = []
    · have blanks : trimEnd (c :: cs) = [] := by rw [trimEnd_cons, if_pos hend]
      rw [blanks, trimEnd_trimLines_eq_nil_iff.2 blanks, trimLines_nil]
    · -- What is left of the first line is the same before and after the end is trimmed.
      have same : isBlank c = true →
          endsLine (trimEnd (trimLines cs)) = endsLine (trimLines cs) := by
        intro blank
        have left : trimEnd (trimLines cs) ≠ [] := fun h =>
          hend ⟨blank, trimEnd_trimLines_eq_nil_iff.1 h⟩
        obtain ⟨rest, h⟩ := trimEnd_isPrefix (trimLines cs)
        obtain ⟨d, ds, hd⟩ := List.exists_cons_of_ne_nil left
        rw [hd] at h ⊢
        rw [← h]
        rfl
      have kept : ¬ (isBlank c = true ∧ trimEnd (trimLines cs) = []) := by
        rwa [trimEnd_trimLines_eq_nil_iff]
      rw [trimEnd_cons, if_neg hend, trimLines_cons, trimLines_cons, ih]
      by_cases blank : isBlank c = true
      · rw [same blank]
        split
        · rfl
        · rw [trimEnd_cons, if_neg kept]
      · rw [if_neg fun h => blank h.2.1, if_neg fun h => blank h.2.1, trimEnd_cons, if_neg kept]

/-- A text that is trimmed loses no carriage return when it is cut into lines again. -/
theorem lines_trimEnd_trimLines (cs : List Char) :
    lines (trimEnd (trimLines cs) ++ ['\n']) = cut (· == '\n') (trimEnd (trimLines cs)) := by
  have kept : dropReturn ∘ trimEnd = trimEnd := funext dropReturn_trimEnd
  rw [lines_append_cons, ← trimLines_trimEnd, cut_trimLines, List.map_map, kept]
  exact List.append_nil _

/-- A trimmed text starts like the text, or its first line is empty. -/
theorem head?_trimLines (cs : List Char) :
    endsLine (trimLines cs) ∨ (trimLines cs).head? = cs.head? := by
  cases cs with
  | nil => exact .inl rfl
  | cons c cs =>
    rw [trimLines_cons]
    split
    · rename_i h
      exact .inl h.2.2
    · exact .inr rfl

/-- Blanks in front of a word stay blanks, and some are left if there were any. -/
theorem exists_trimLines_blanks {blanks : List Char} (hb : ∀ c ∈ blanks, isBlank c = true)
    {c : Char} (hc : isBlank c = false) (cs : List Char) :
    ∃ blanks', (∀ d ∈ blanks', isBlank d = true) ∧ (blanks ≠ [] → blanks' ≠ []) ∧
      trimLines (blanks ++ c :: cs) = blanks' ++ c :: trimLines cs := by
  induction blanks with
  | nil =>
    refine ⟨[], by simp, fun h => h, ?_⟩
    simp [trimLines_cons, hc]
  | cons d blanks ih =>
    obtain ⟨blanks', hb', hne, h⟩ := ih fun e he => hb e (List.mem_cons_of_mem _ he)
    rw [List.cons_append, trimLines_cons, h]
    split
    · rename_i hd
      -- The line ends behind the dropped blank, so the line feed is left of the others.
      refine ⟨blanks', hb', fun _ hnil => ?_, rfl⟩
      have feed : c = '\n' := by simpa [hnil, endsLine] using hd.2.2
      rw [feed] at hc
      exact absurd hc (by decide)
    · refine ⟨d :: blanks', ?_, by simp, rfl⟩
      intro e he
      rcases List.mem_cons.1 he with rfl | he
      · exact hb _ List.mem_cons_self
      · exact hb' e he

end ModelSchema.Text
