import ModelSchema.Proofs.Text.Lines
import ModelSchema.Text.Decimal

/-!
# Laws of white space

Blanks around a text do not reach its trimmed form. A collapsed text is the trimmed text with one
space in the place of every run of blanks, which can be told character by character from the front.
No numeral holds a blank.

## Main definitions

* `Text.AllBlank` — a text of blanks.
* `Text.squeeze` — a text with one space in the place of every run of blanks.

## Main statements

* `Text.of_isBlank` — what holds of the blanks by their numbers holds of every blank.
* `Text.trim_append_append` — blanks around a text are trimmed away.
* `Text.exists_eq_append_trim` — a text is its trimmed form with blanks around it.
* `Text.trim_squeeze` — trimming and squeezing commute.
* `Text.collapse_eq_squeeze_trim` — a collapsed text is a trimmed one that is squeezed.
* `Text.forall_not_blank_of_isDecimal` — a numeral holds no blank.
-/

namespace ModelSchema.Text

variable {l r cs : List Char} {c : Char}

/-! ## Blank characters -/

/-- The numbers of the blank characters. -/
def blankNumbers : List Nat :=
  [0x9, 0xA, 0xB, 0xC, 0xD, 0x20, 0x85, 0xA0, 0x1680, 0x2000, 0x2001, 0x2002, 0x2003, 0x2004,
    0x2005, 0x2006, 0x2007, 0x2008, 0x2009, 0x200A, 0x2028, 0x2029, 0x202F, 0x205F, 0x3000]

theorem toNat_mem_blankNumbers {c : Char} (h : isBlank c = true) : c.toNat ∈ blankNumbers := by
  simp only [isBlank, Bool.or_eq_true, Bool.and_eq_true, decide_eq_true_eq, beq_iff_eq] at h
  simp only [blankNumbers, List.mem_cons, List.not_mem_nil, or_false]
  omega

/-- What is true of the blank characters by their numbers is true of every blank. -/
theorem of_isBlank {P : Char → Prop} (h : ∀ n ∈ blankNumbers, P (Char.ofNat n))
    (hc : isBlank c = true) : P c := by
  have known := h c.toNat (toNat_mem_blankNumbers hc)
  rwa [Char.ofNat_toNat] at known

/-! ## Blanks around a text -/

/-- What is said of the characters of a text is decided along the text, not over all characters. -/
instance decidableForallMem (p : Char → Prop) [DecidablePred p] (cs : List Char) :
    Decidable (∀ c ∈ cs, p c) :=
  List.decidableBAll p cs

/-- The text holds nothing but blanks. -/
def AllBlank (cs : List Char) : Prop := ∀ c ∈ cs, isBlank c = true

instance (cs : List Char) : Decidable (AllBlank cs) := decidableForallMem _ cs

theorem allBlank_nil : AllBlank [] := by simp [AllBlank]

theorem allBlank_cons_iff : AllBlank (c :: cs) ↔ isBlank c = true ∧ AllBlank cs := by
  simp [AllBlank]

theorem AllBlank.append (hl : AllBlank l) (hr : AllBlank r) : AllBlank (l ++ r) := fun c hc =>
  (List.mem_append.1 hc).elim (hl c) (hr c)

theorem AllBlank.not_mem (h : AllBlank cs) (hc : isBlank c = false) : c ∉ cs := fun mem => by
  simp [h c mem] at hc

theorem trimStart_append (h : AllBlank l) (cs : List Char) : trimStart (l ++ cs) = trimStart cs :=
  List.dropWhile_append_of_pos h

theorem trimEnd_append (h : AllBlank r) (cs : List Char) : trimEnd (cs ++ r) = trimEnd cs := by
  have reversed : ∀ c ∈ r.reverse, isBlank c = true := fun c hc => h c (List.mem_reverse.1 hc)
  simp [trimEnd, trimEndBy, List.dropWhile_append_of_pos reversed]

theorem trimStart_cons (c : Char) (cs : List Char) :
    trimStart (c :: cs) = if isBlank c then trimStart cs else c :: cs :=
  List.dropWhile_cons

theorem trimStart_eq_nil (h : AllBlank cs) : trimStart cs = [] :=
  List.dropWhile_eq_nil_iff.2 h

theorem trim_append_append (hl : AllBlank l) (hr : AllBlank r) (cs : List Char) :
    trim (l ++ (cs ++ r)) = trim cs := by
  change trimEnd (trimStart (l ++ (cs ++ r))) = trimEnd (trimStart cs)
  rw [trimStart_append hl]
  by_cases blank : AllBlank cs
  · rw [trimStart_eq_nil blank, trimStart_eq_nil (blank.append hr)]
  · have left : (trimStart cs).isEmpty = false := by
      simpa [AllBlank, trimStart, trimStartBy] using blank
    have front : trimStart (cs ++ r) = trimStart cs ++ r := by
      simp only [trimStart, trimStartBy, List.dropWhile_append] at left ⊢
      simp [left]
    rw [front, trimEnd_append hr]

theorem exists_eq_append_trimStart (cs : List Char) : ∃ l, AllBlank l ∧ cs = l ++ trimStart cs :=
  ⟨cs.takeWhile isBlank, fun _ hc => List.mem_takeWhile_imp hc,
    List.takeWhile_append_dropWhile.symm⟩

theorem exists_eq_append_trimEnd (cs : List Char) : ∃ r, AllBlank r ∧ cs = trimEnd cs ++ r := by
  obtain ⟨l, hl, same⟩ := exists_eq_append_trimStart cs.reverse
  refine ⟨l.reverse, fun c hc => hl c (List.mem_reverse.1 hc), ?_⟩
  rw [← List.reverse_inj, same]
  simp [trimEnd, trimEndBy, trimStart, trimStartBy]

/-- What ends a line besides its line feed is blank. -/
theorem exists_eq_append_dropReturn (cs : List Char) :
    ∃ r, AllBlank r ∧ cs = dropReturn cs ++ r := by
  unfold dropReturn
  split
  · rename_i last
    obtain ⟨front, rfl⟩ := List.getLast?_eq_some_iff.1 last
    exact ⟨['\r'], by decide, by rw [List.dropLast_concat]⟩
  · exact ⟨[], allBlank_nil, (List.append_nil cs).symm⟩

/-- Blanks at the end of a line are trimmed away. -/
theorem trimLines_blanks_append (blank : AllBlank l) (line : IsLine l) (ends : endsLine r = true) :
    trimLines (l ++ r) = trimLines r := by
  have trimmed : endsLine (trimLines r) = true := by
    rcases head?_trimLines r with ends | same
    · exact ends
    · rwa [endsLine, same]
  induction l with
  | nil => rfl
  | cons c l ih =>
    obtain ⟨first, others⟩ := allBlank_cons_iff.1 blank
    have feed : c ≠ '\n' := fun feed => line (feed ▸ List.mem_cons_self)
    have behind := ih others fun mem => line (List.mem_cons_of_mem _ mem)
    rw [List.cons_append, trimLines_cons, behind, if_pos ⟨feed, first, trimmed⟩]

/-- A text is its trimmed form with blanks around it. -/
theorem exists_eq_append_trim (cs : List Char) :
    ∃ l r, AllBlank l ∧ AllBlank r ∧ cs = l ++ (trim cs ++ r) := by
  obtain ⟨l, hl, front⟩ := exists_eq_append_trimStart cs
  obtain ⟨r, hr, back⟩ := exists_eq_append_trimEnd (trimStart cs)
  exact ⟨l, r, hl, hr, front.trans (congrArg (l ++ ·) back)⟩

theorem trim_eq_nil_iff : trim cs = [] ↔ AllBlank cs := by
  constructor
  · intro empty
    obtain ⟨l, r, hl, hr, same⟩ := exists_eq_append_trim cs
    rw [same, empty]
    exact hl.append hr
  · intro h
    change trimEnd (trimStart cs) = []
    rw [trimStart_eq_nil h]
    rfl

/-- Trimming is idempotent. -/
theorem trim_trim (cs : List Char) : trim (trim cs) = trim cs := by
  obtain ⟨l, r, hl, hr, same⟩ := exists_eq_append_trim cs
  exact (trim_append_append hl hr _).symm.trans (congrArg trim same.symm)

theorem trim_trimStart (cs : List Char) : trim (trimStart cs) = trim cs := by
  obtain ⟨l, hl, same⟩ := exists_eq_append_trimStart cs
  have whole := trim_append_append hl allBlank_nil (trimStart cs)
  rwa [List.append_nil, ← same, eq_comm] at whole

theorem compact_append_append (hl : AllBlank l) (hr : AllBlank r) (cs : List Char) :
    compact (l ++ (cs ++ r)) = compact cs := by
  have none {blanks : List Char} (h : AllBlank blanks) : compact blanks = [] :=
    List.filter_eq_nil_iff.2 fun c hc => by simp [h c hc]
  have apart (a b : List Char) : compact (a ++ b) = compact a ++ compact b := List.filter_append a b
  rw [apart, apart, none hl, none hr, List.nil_append, List.append_nil]

theorem compact_trim (cs : List Char) : compact (trim cs) = compact cs := by
  obtain ⟨l, r, hl, hr, same⟩ := exists_eq_append_trim cs
  exact (compact_append_append hl hr _).symm.trans (congrArg compact same.symm)

/-! ## Blanks between words -/

/-- `cs` with one space in the place of every run of blanks. -/
def squeeze : List Char → List Char
  | [] => []
  | c :: cs =>
    if isBlank c then if cs.head?.any isBlank then squeeze cs else ' ' :: squeeze cs
    else c :: squeeze cs

@[simp] theorem squeeze_nil : squeeze [] = [] := rfl

@[simp] theorem squeeze_cons_of_not_blank (h : isBlank c = false) (cs : List Char) :
    squeeze (c :: cs) = c :: squeeze cs := by
  simp [squeeze, h]

/-- The last blank of a run is the one that leaves a space. -/
theorem squeeze_cons_of_blank (h : isBlank c = true) (cs : List Char) :
    squeeze (c :: cs) = if cs.head?.any isBlank then squeeze cs else ' ' :: squeeze cs := by
  simp [squeeze, h]

@[simp] theorem squeeze_eq_nil_iff : squeeze cs = [] ↔ cs = [] := by
  induction cs with
  | nil => simp
  | cons c cs ih =>
    cases cs <;> grind [squeeze]

/-- A text with a blank keeps a blank. -/
theorem forall_squeeze_not_blank_iff :
    (∀ c ∈ squeeze cs, isBlank c = false) ↔ ∀ c ∈ cs, isBlank c = false := by
  induction cs with
  | nil => simp
  | cons d cs ih => cases cs <;> grind [squeeze, show isBlank ' ' = true by decide]

theorem squeeze_of_forall_not_blank (h : ∀ c ∈ cs, isBlank c = false) : squeeze cs = cs := by
  induction cs with
  | nil => rfl
  | cons c cs ih => grind [squeeze]

/-- Only a word itself is squeezed to the word. -/
theorem squeeze_eq_iff {word : List Char} (h : ∀ c ∈ word, isBlank c = false) :
    squeeze cs = word ↔ cs = word := by
  constructor
  · rintro rfl
    exact (squeeze_of_forall_not_blank (forall_squeeze_not_blank_iff.1 h)).symm
  · rintro rfl
    exact squeeze_of_forall_not_blank h

/-- What is no blank stays at the front. -/
theorem head?_squeeze (h : isBlank c = false) :
    (squeeze cs).head? = some c ↔ cs.head? = some c := by
  induction cs with
  | nil => rfl
  | cons d cs ih => cases cs <;> grind [squeeze, show isBlank ' ' = true by decide]

/-- What is no blank stays at the end. -/
theorem getLast?_squeeze (h : isBlank c = false) :
    (squeeze cs).getLast? = some c ↔ cs.getLast? = some c := by
  induction cs with
  | nil => rfl
  | cons d cs ih =>
    cases cs <;> grind [squeeze, squeeze_eq_nil_iff, show isBlank ' ' = true by decide]

theorem length_squeeze_le (cs : List Char) : (squeeze cs).length ≤ cs.length := by
  induction cs with
  | nil => exact Nat.le_refl 0
  | cons c cs ih => grind [squeeze]

theorem compact_squeeze (cs : List Char) : compact (squeeze cs) = compact cs := by
  induction cs with
  | nil => rfl
  | cons c cs ih => grind [squeeze, compact, show isBlank ' ' = true by decide]

theorem trimStart_squeeze (cs : List Char) : trimStart (squeeze cs) = squeeze (trimStart cs) := by
  induction cs with
  | nil => rfl
  | cons c cs ih => grind [squeeze, trimStart_cons, show isBlank ' ' = true by decide]

theorem trimEnd_squeeze (cs : List Char) : trimEnd (squeeze cs) = squeeze (trimEnd cs) := by
  induction cs with
  | nil => rfl
  | cons c cs ih =>
    -- What is left of the text behind `c` starts as the text does.
    have first : trimEnd cs ≠ [] → (trimEnd cs).head? = cs.head? := by
      obtain ⟨rest, same⟩ := trimEnd_isPrefix cs
      intro left
      obtain ⟨d, ds, kept⟩ := List.exists_cons_of_ne_nil left
      rw [kept, List.cons_append] at same
      rw [kept, ← same, List.head?_cons, List.head?_cons]
    have space : isBlank ' ' = true := by decide
    by_cases blank : isBlank c = true
    · grind [squeeze, trimEnd_cons, squeeze_eq_nil_iff]
    · grind [squeeze, trimEnd_cons]

/-- Trimming and squeezing commute. -/
theorem trim_squeeze (cs : List Char) : trim (squeeze cs) = squeeze (trim cs) := by
  change trimEnd (trimStart (squeeze cs)) = squeeze (trimEnd (trimStart cs))
  rw [trimStart_squeeze, trimEnd_squeeze]

/-! ## Collapsed text -/

theorem words_cons_of_blank (h : isBlank c = true) (cs : List Char) :
    words (c :: cs) = words cs := by
  simp [words, cut_cons_of_pos h]

theorem collapse_eq_nil_iff : collapse cs = [] ↔ words cs = [] := by
  constructor
  · intro h
    by_contra ne
    obtain ⟨word, others, same⟩ := List.exists_cons_of_ne_nil ne
    have front := joinWith_isPrefix [' '] (show [word] <+: words cs from ⟨others, same.symm⟩)
    rw [joinWith_singleton] at front
    rw [collapse] at h
    rw [h, List.prefix_nil] at front
    exact ne_nil_of_mem_words (show word ∈ words cs by simp [same]) front
  · intro h
    simp [collapse, h, joinWith]

/-- A character that is no blank belongs to the word that it stands before, or is a word alone. -/
theorem collapse_cons_of_not_blank (h : isBlank c = false) (cs : List Char) :
    collapse (c :: cs) =
      c :: if cs.head?.any isBlank ∧ collapse cs ≠ [] then ' ' :: collapse cs else collapse cs := by
  cases cs with
  | nil => simp [collapse, words, cut, h, joinWith]
  | cons d cs =>
    cases hd : isBlank d with
    | true =>
      have word : words (c :: d :: cs) = [c] :: words (d :: cs) := by
        simp [words, cut, h, hd]
      by_cases last : words (d :: cs) = []
      · simp [collapse, word, last, joinWith]
      · have left : collapse (d :: cs) ≠ [] := collapse_eq_nil_iff.not.2 last
        rw [if_pos ⟨by simpa using hd, left⟩, collapse, word, joinWith_cons _ _ last]
        rfl
    | false =>
      obtain ⟨piece, pieces, -, hcut⟩ := cut_cons_of_not hd cs
      have word : words (d :: cs) = (d :: piece) :: pieces.filter (!·.isEmpty) := by
        simp [words, hcut]
      have longer : words (c :: d :: cs) = (c :: d :: piece) :: pieces.filter (!·.isEmpty) := by
        rw [words, cut, h, hcut]
        simp
      simp [hd, collapse, word, longer, joinWith, List.intercalate_cons_cons_left]

theorem squeeze_of_head_blank (h : cs.head?.any isBlank) :
    squeeze cs = ' ' :: squeeze (trimStart cs) := by
  induction cs with
  | nil => cases h
  | cons c cs ih =>
    cases cs <;> grind [squeeze, trimStart_cons, show trimStart [] = [] from rfl]

/-- A collapsed text is the trimmed text with one space in the place of every run of blanks. -/
theorem collapse_eq_squeeze_trim (cs : List Char) : collapse cs = squeeze (trim cs) := by
  induction cs with
  | nil => rfl
  | cons c cs ih =>
    change _ = squeeze (trimEnd (trimStart (c :: cs)))
    change _ = squeeze (trimEnd (trimStart cs)) at ih
    by_cases blank : isBlank c = true
    · rw [trimStart_cons, if_pos blank, ← ih, collapse, words_cons_of_blank blank, collapse]
    · have word : isBlank c = false := by simpa using blank
      rw [trimStart_cons, if_neg blank, trimEnd_cons, if_neg fun h => blank h.1,
        squeeze_cons_of_not_blank word, collapse_cons_of_not_blank word]
      congr 1
      by_cases first : cs.head?.any isBlank
      · rw [← trimEnd_squeeze, squeeze_of_head_blank first, trimEnd_cons, trimEnd_squeeze, ← ih]
        simp [first, show isBlank ' ' = true by decide]
        grind
      · have start : trimStart cs = cs := by
          cases cs <;> grind [trimStart_cons, show trimStart [] = [] from rfl]
        rw [start] at ih
        rw [if_neg fun h => first h.1, ih]

/-! ## Numerals -/

theorem isBlank_of_isDigit (h : c.isDigit = true) : isBlank c = false := by
  rw [Bool.eq_false_iff]
  intro blank
  have apart : c.isDigit = false := of_isBlank (P := fun d => d.isDigit = false) (by decide) blank
  simp [h] at apart

theorem forall_not_blank_of_dropSign (h : ∀ c ∈ dropSign cs, isBlank c = false) :
    ∀ c ∈ cs, isBlank c = false := by
  unfold dropSign at h
  split at h
  · exact List.forall_mem_cons.2 ⟨by decide, h⟩
  · exact List.forall_mem_cons.2 ⟨by decide, h⟩
  · exact h

theorem forall_not_blank_of_isExponent (h : isExponent cs = true) :
    ∀ c ∈ cs, isBlank c = false := by
  cases cs with
  | nil => simp
  | cons e cs =>
    simp only [isExponent, isDigits, Bool.and_eq_true, Bool.or_eq_true, beq_iff_eq,
      List.all_eq_true] at h
    obtain ⟨letter, -, digits⟩ := h
    have mark : isBlank e = false := by
      rcases letter with rfl | rfl <;> decide
    have behind := forall_not_blank_of_dropSign fun c hc => isBlank_of_isDigit (digits c hc)
    exact List.forall_mem_cons.2 ⟨mark, behind⟩

theorem forall_not_blank_of_digits (h : ∀ c ∈ cs.dropWhile Char.isDigit, isBlank c = false) :
    ∀ c ∈ cs, isBlank c = false := by
  intro c hc
  rw [← List.takeWhile_append_dropWhile (p := Char.isDigit) (l := cs), List.mem_append] at hc
  exact hc.elim (fun digit => isBlank_of_isDigit (List.mem_takeWhile_imp digit)) (h c)

theorem forall_not_blank_of_isUnsignedDecimal (h : isUnsignedDecimal cs = true) :
    ∀ c ∈ cs, isBlank c = false := by
  refine forall_not_blank_of_digits ?_
  unfold isUnsignedDecimal at h
  split at h
  · rename_i rest point
    simp only [Bool.and_eq_true] at h
    have fraction := forall_not_blank_of_digits (forall_not_blank_of_isExponent h.2)
    rw [point]
    exact List.forall_mem_cons.2 ⟨by decide, fraction⟩
  · simp only [Bool.and_eq_true] at h
    exact forall_not_blank_of_isExponent h.2

/-- A numeral holds no blank. -/
theorem forall_not_blank_of_isDecimal (h : isDecimal cs = true) : ∀ c ∈ cs, isBlank c = false := by
  refine forall_not_blank_of_dropSign ?_
  unfold isDecimal at h
  rcases Bool.or_eq_true_iff.1 h with h | h
  · exact forall_not_blank_of_isUnsignedDecimal h
  · intro c hc
    have letters : ∀ word ∈ ["inf", "infinity", "nan"], ∀ c ∈ word.toList, isBlank c = false := by
      decide
    have lowered : isBlank c.toLower = false := by
      refine letters _ (List.contains_iff_mem.1 h) _ ?_
      rw [String.toList_ofList]
      exact List.mem_map_of_mem hc
    rw [Bool.eq_false_iff]
    intro blank
    have kept : c.toLower = c := of_isBlank (P := fun d => d.toLower = d) (by decide) blank
    rw [kept, blank] at lowered
    cases lowered

end ModelSchema.Text
