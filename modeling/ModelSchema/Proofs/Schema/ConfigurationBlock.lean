import ModelSchema.Proofs.Text.Blank
import ModelSchema.Schema.Preamble

/-!
# Configuration blocks

The pattern of a configuration block, read as a grammar: a header of keyword, blanks, name and
opening brace, and a body through the first closing brace at the beginning of a line. Trimming
lines turns blocks into blocks.

## Main definitions

* `Preamble.IsHeader`, `Preamble.IsBlock` — headers and blocks by their parts.

## Main statements

* `Preamble.blockLength?_append` — a block is matched whatever follows it.
* `Preamble.isBlock_of_blockLength?` — what is matched is a block.
* `Preamble.IsBlock.trimLines` — a block with trimmed lines is a block.
-/

namespace ModelSchema.Preamble

open Text

/-- No blank may stand in a word. -/
theorem not_isBlank_of_isWordChar {c : Char} (h : isWordChar c = true) : isBlank c = false := by
  rw [Bool.eq_false_iff]
  intro blank
  have apart : isWordChar c = false :=
    of_isBlank (P := fun d => isWordChar d = false) (by decide +kernel) blank
  simp [h] at apart

/-! ## Closing braces -/

theorem closingLength?_append {a : List Char} {n : Nat} (h : closingLength? a = some n)
    (b : List Char) : closingLength? (a ++ b) = some n := by
  induction a generalizing n with
  | nil => cases h
  | cons c a ih =>
    rw [closingLength?] at h
    rw [List.cons_append, closingLength?]
    split at h
    · rename_i hc
      have head : (a ++ b).head? = some '\x7d' := by
        rw [List.head?_append, hc.2]
        rfl
      rw [if_pos ⟨hc.1, head⟩, h]
    · rename_i hc
      obtain ⟨k, hk, rfl⟩ := Option.map_eq_some_iff.1 h
      have tail : a ≠ [] := fun hnil => by simp [hnil, closingLength?] at hk
      have head : (a ++ b).head? = a.head? := by
        obtain ⟨d, a, rfl⟩ := List.exists_cons_of_ne_nil tail
        rfl
      rw [head, if_neg hc, ih hk]
      rfl

/-- The text through the closing brace closes at its end. -/
theorem closingLength?_take {cs : List Char} {n : Nat} (h : closingLength? cs = some n) :
    n ≤ cs.length ∧ closingLength? (cs.take n) = some n := by
  induction cs generalizing n with
  | nil => cases h
  | cons c cs ih =>
    rw [closingLength?] at h
    split at h
    · rename_i hc
      obtain rfl := Option.some.inj h
      obtain ⟨rfl, hd⟩ := hc
      obtain ⟨cs, rfl⟩ := List.head?_eq_some_iff.1 hd
      exact ⟨by simp, rfl⟩
    · rename_i hc
      obtain ⟨k, hk, rfl⟩ := Option.map_eq_some_iff.1 h
      obtain ⟨hle, htake⟩ := ih hk
      refine ⟨by simpa using hle, ?_⟩
      have head : ¬ (c = '\n' ∧ (cs.take k).head? = some '\x7d') := by
        rintro ⟨rfl, hd⟩
        obtain ⟨rest, hrest⟩ := List.head?_eq_some_iff.1 hd
        have start : cs.take k <+: cs := List.take_prefix k cs
        rw [hrest] at start
        obtain ⟨back, rfl⟩ := start
        exact hc ⟨rfl, rfl⟩
      rw [List.take_succ_cons, closingLength?, if_neg head, htake]
      rfl

/-- Trimming lines keeps the first closing brace where it is. -/
theorem closingLength?_trimLines {body : List Char}
    (h : closingLength? body = some body.length) :
    closingLength? (trimLines body) = some (trimLines body).length := by
  induction body with
  | nil => cases h
  | cons c cs ih =>
    rw [closingLength?] at h
    split at h
    · rename_i hc
      obtain ⟨rfl, hd⟩ := hc
      obtain ⟨rest, rfl⟩ := List.head?_eq_some_iff.1 hd
      have nil : rest = [] := by simpa using h
      rw [nil]
      decide
    · rename_i hc
      obtain ⟨k, hk, same⟩ := Option.map_eq_some_iff.1 h
      obtain rfl : k = cs.length := by simpa using same
      rw [trimLines_cons]
      split
      · exact ih hk
      · have head : ¬ (c = '\n' ∧ (trimLines cs).head? = some '\x7d') := by
          rintro ⟨feed, hd⟩
          rcases head?_trimLines cs with ends | starts
          · rw [endsLine, hd] at ends
            exact absurd ends (by decide)
          · exact hc ⟨feed, starts ▸ hd⟩
        rw [closingLength?, if_neg head, ih hk]
        rfl

/-- A text that closes at its end ends in a brace. -/
theorem getLast?_of_closingLength? {body : List Char}
    (h : closingLength? body = some body.length) : body.getLast? = some '\x7d' := by
  induction body with
  | nil => cases h
  | cons c cs ih =>
    rw [closingLength?] at h
    split at h
    · rename_i hc
      obtain ⟨rest, rfl⟩ := List.head?_eq_some_iff.1 hc.2
      have nil : rest = [] := by simpa using h
      rw [nil]
      rfl
    · obtain ⟨k, hk, same⟩ := Option.map_eq_some_iff.1 h
      obtain rfl : k = cs.length := by simpa using same
      rw [List.getLast?_cons, ih hk]
      rfl

/-! ## Headers -/

/-- The header of a configuration block: a keyword, blanks, a name, and an opening brace. -/
inductive IsHeader : List Char → Prop where
  | intro {keyword gap name space : List Char} (known : keyword ∈ keywords) (apart : gap ≠ [])
      (gapBlank : ∀ c ∈ gap, isBlank c = true) (named : name ≠ [])
      (nameWord : ∀ c ∈ name, isWordChar c = true) (spaceBlank : ∀ c ∈ space, isBlank c = true) :
      IsHeader (keyword ++ (gap ++ (name ++ (space ++ ['\x7b']))))

theorem not_isBlank_of_mem_keyword {keyword : List Char} (h : keyword ∈ keywords) :
    ∀ c ∈ keyword, isBlank c = false := by
  have all : ∀ keyword ∈ keywords, keyword.all (!isBlank ·) = true := by decide +kernel
  simpa using all keyword h

/-- Of two keywords neither starts the other. -/
theorem eq_of_isPrefix {keyword other : List Char} (h : keyword ∈ keywords)
    (h' : other ∈ keywords) {cs : List Char} (start : keyword <+: cs) (start' : other <+: cs) :
    keyword = other := by
  have apart : ∀ keyword ∈ keywords, ∀ other ∈ keywords, keyword.head? = other.head? →
      keyword = other := by decide +kernel
  have front : ∀ keyword ∈ keywords, keyword <+: cs → keyword.head? = cs.head? := by
    intro keyword h start
    obtain ⟨rest, rfl⟩ := start
    have hne : ∀ keyword ∈ keywords, keyword ≠ [] := by decide +kernel
    rw [List.head?_append_of_ne_nil _ (hne keyword h)]
  exact apart keyword h other h' ((front keyword h start).trans (front other h' start').symm)

/-- A run of characters that satisfy `p` ends at one that does not. -/
theorem span_append {p : Char → Bool} {front : List Char} (hf : ∀ c ∈ front, p c = true)
    {c : Char} (hc : p c = false) (back : List Char) :
    (front ++ c :: back).takeWhile p = front ∧ (front ++ c :: back).dropWhile p = c :: back := by
  rw [List.takeWhile_append_of_pos hf, List.dropWhile_append_of_pos hf]
  simp [hc]

theorem findSome?_of_forall_ne {α β : Type} {f : α → Option β} {l : List α} {a : α} {b : β}
    (ha : a ∈ l) (hb : f a = some b) (others : ∀ o ∈ l, o ≠ a → f o = none) :
    l.findSome? f = some b := by
  induction l with
  | nil => cases ha
  | cons o l ih =>
    by_cases same : o = a
    · rw [same, List.findSome?_cons, hb]
    · have tail : a ∈ l := (List.mem_cons.1 ha).resolve_left fun h => same h.symm
      rw [List.findSome?_cons, others o List.mem_cons_self same]
      exact ih tail fun o ho => others o (List.mem_cons_of_mem _ ho)

/-- A header is matched whatever follows. -/
theorem headerLength?_append {header : List Char} (h : IsHeader header) (rest : List Char) :
    headerLength? (header ++ rest) = some header.length := by
  obtain ⟨known, apart, gapBlank, named, nameWord, spaceBlank⟩ := h
  rename_i keyword gap name space
  obtain ⟨n, ns, rfl⟩ := List.exists_cons_of_ne_nil named
  obtain ⟨c, back, hback, hc⟩ : ∃ c back, space ++ '\x7b' :: rest = c :: back ∧
      isWordChar c = false := by
    cases space with
    | nil => exact ⟨'\x7b', rest, rfl, by decide +kernel⟩
    | cons c space =>
      refine ⟨c, _, rfl, ?_⟩
      rw [Bool.eq_false_iff]
      intro word
      have blank := spaceBlank c List.mem_cons_self
      rw [not_isBlank_of_isWordChar word] at blank
      cases blank
  have start : isBlank n = false :=
    not_isBlank_of_isWordChar (nameWord n List.mem_cons_self)
  have brace : isBlank '\x7b' = false := by decide
  have gapSpan := span_append gapBlank start (ns ++ c :: back)
  have nameSpan := span_append nameWord hc back
  have spaceSpan := span_append spaceBlank brace rest
  rw [← hback] at gapSpan nameSpan
  simp only [List.cons_append] at gapSpan nameSpan
  have whole : keyword ++ (gap ++ (n :: ns ++ (space ++ ['\x7b']))) ++ rest =
      keyword ++ (gap ++ n :: (ns ++ (space ++ '\x7b' :: rest))) := by simp
  rw [whole, headerLength?]
  refine findSome?_of_forall_ne known ?_ ?_
  · rw [List.isPrefixOf?_eq_some_iff_append_eq.2 rfl, Option.bind_some]
    simp only [gapSpan, nameSpan, spaceSpan, List.head?_cons]
    rw [if_pos ⟨apart, by simp, by trivial⟩]
    simp
    omega
  · intro other hother ne
    have none : other.isPrefixOf? (keyword ++ (gap ++ n :: (ns ++ (space ++ '\x7b' :: rest)))) =
        Option.none := by
      rw [Option.eq_none_iff_forall_ne_some]
      intro back hback
      exact ne (eq_of_isPrefix hother known
        ⟨back, List.isPrefixOf?_eq_some_iff_append_eq.1 hback⟩ (List.prefix_append _ _))
    rw [none]
    rfl

/-- What is matched is a header. -/
theorem exists_isHeader_of_headerLength? {cs : List Char} {n : Nat}
    (h : headerLength? cs = some n) :
    ∃ header rest, IsHeader header ∧ cs = header ++ rest ∧ n = header.length := by
  rw [headerLength?, List.findSome?_eq_some_iff] at h
  obtain ⟨before, keyword, after, among, h, -⟩ := h
  have known : keyword ∈ keywords := by simp [among]
  obtain ⟨rest, hrest, matched⟩ := Option.bind_eq_some_iff.1 h
  obtain rfl := List.isPrefixOf?_eq_some_iff_append_eq.1 hrest
  simp only at matched
  split at matched
  · rename_i parts
    obtain ⟨apart, named, brace⟩ := parts
    obtain ⟨body, hbody⟩ := List.head?_eq_some_iff.1 brace
    have split : rest.takeWhile isBlank ++ ((rest.dropWhile isBlank).takeWhile isWordChar ++
        (((rest.dropWhile isBlank).dropWhile isWordChar).takeWhile isBlank ++
          '\x7b' :: body)) = rest := by
      rw [← hbody, List.takeWhile_append_dropWhile, List.takeWhile_append_dropWhile,
        List.takeWhile_append_dropWhile]
    have spaceBlank : ∀ c ∈ ((rest.dropWhile isBlank).dropWhile isWordChar).takeWhile isBlank,
        isBlank c = true := fun c hc => List.mem_takeWhile_imp hc
    refine ⟨_, body, .intro known apart (fun c hc => List.mem_takeWhile_imp hc) named
      (fun c hc => List.mem_takeWhile_imp hc) spaceBlank, ?_, ?_⟩
    · conv_lhs => rw [← split]
      simp
    · obtain rfl := Option.some.inj matched
      simp
      omega
  · cases matched

/-! ## Blocks -/

/-- A configuration block: a header and everything through the first closing brace. -/
inductive IsBlock : List Char → Prop where
  | intro {header body : List Char} (head : IsHeader header)
      (closes : closingLength? body = some body.length) : IsBlock (header ++ body)

/-- A block is matched whatever follows. -/
theorem blockLength?_append {block : List Char} (h : IsBlock block) (rest : List Char) :
    blockLength? (block ++ rest) = some block.length := by
  obtain ⟨head, closes⟩ := h
  rw [List.append_assoc, blockLength?, headerLength?_append head, Option.bind_some,
    List.drop_left, closingLength?_append closes, Option.map_some, List.length_append]

/-- What is matched is a block. -/
theorem isBlock_of_blockLength? {cs : List Char} {n : Nat} (h : blockLength? cs = some n) :
    IsBlock (cs.take n) ∧ n ≤ cs.length := by
  obtain ⟨k, hk, h⟩ := Option.bind_eq_some_iff.1 h
  obtain ⟨header, rest, head, rfl, rfl⟩ := exists_isHeader_of_headerLength? hk
  rw [List.drop_left] at h
  obtain ⟨m, hm, rfl⟩ := Option.map_eq_some_iff.1 h
  obtain ⟨hle, htake⟩ := closingLength?_take hm
  have length : (rest.take m).length = m := List.length_take_of_le hle
  rw [List.take_length_add_append]
  refine ⟨.intro head ?_, by simpa using hle⟩
  rw [htake, length]

theorem IsHeader.exists_trimLines {header : List Char} (h : IsHeader header) (rest : List Char) :
    ∃ header', IsHeader header' ∧ trimLines (header ++ rest) = header' ++ trimLines rest := by
  obtain ⟨known, apart, gapBlank, named, nameWord, spaceBlank⟩ := h
  rename_i keyword gap name space
  obtain ⟨n, ns, rfl⟩ := List.exists_cons_of_ne_nil named
  have word : ∀ c ∈ n :: ns, isBlank c = false :=
    fun c hc => not_isBlank_of_isWordChar (nameWord c hc)
  have brace : isBlank '\x7b' = false := by decide
  obtain ⟨space', spaceBlank', -, hspace⟩ := exists_trimLines_blanks spaceBlank brace rest
  obtain ⟨gap', gapBlank', apart', hgap⟩ := exists_trimLines_blanks gapBlank
    (word n List.mem_cons_self) (ns ++ (space ++ '\x7b' :: rest))
  have behind : trimLines (ns ++ (space ++ '\x7b' :: rest)) =
      ns ++ (space' ++ '\x7b' :: trimLines rest) := by
    rw [trimLines_append_of_not_blank fun c hc => word c (List.mem_cons_of_mem _ hc), hspace]
  refine ⟨_, .intro known (apart' apart) gapBlank' named nameWord spaceBlank', ?_⟩
  have whole : keyword ++ (gap ++ (n :: ns ++ (space ++ ['\x7b']))) ++ rest =
      keyword ++ (gap ++ n :: (ns ++ (space ++ '\x7b' :: rest))) := by simp
  rw [whole, trimLines_append_of_not_blank (not_isBlank_of_mem_keyword known), hgap, behind]
  simp

/-- Trimming the lines of a block gives a block. -/
theorem IsBlock.trimLines {block : List Char} (h : IsBlock block) :
    IsBlock (trimLines block) := by
  obtain ⟨head, closes⟩ := h
  rename_i header body
  obtain ⟨header', head', same⟩ := head.exists_trimLines body
  rw [same]
  exact .intro head' (closingLength?_trimLines closes)

/-- A block ends in its closing brace. -/
theorem IsBlock.getLast? {block : List Char} (h : IsBlock block) :
    block.getLast? = some '\x7d' := by
  obtain ⟨head, closes⟩ := h
  rw [List.getLast?_append, getLast?_of_closingLength? closes]
  rfl

end ModelSchema.Preamble
