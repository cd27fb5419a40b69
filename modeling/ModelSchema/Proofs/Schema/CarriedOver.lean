import ModelSchema.Proofs.Schema.Recovery

/-!
# What a recovered preamble carries over

A configuration block is read through the first line behind its header that starts with a closing
brace, whatever stands between. If another block opens before that line, its text becomes part of
the configuration block and is carried over with it. So nothing but configuration is carried over
just when every configuration block of the document closes before the next block opens.

## Main definitions

* `Preamble.OpensBlock`, `Preamble.closesBlock` — the first and the last line of a block.
* `Preamble.CarriesOver` — a configuration block in which another block opens.
* `Preamble.ClosesBlocks` — documents whose configuration blocks close in time.

## Main statements

* `Preamble.laterLines_take` — the lines of a block.
* `Preamble.exists_carriesOver` — a block that is left open is found, or one around it.
* `Preamble.forall_not_carriesOver_iff` — when nothing but configuration is carried over.
-/

namespace ModelSchema.Preamble

open Text

variable {cs front header rest : List Char}

/-! ## Lines that open and close blocks -/

/-- The line starts with a word, blanks, a name and an opening brace. -/
inductive OpensBlock : List Char → Prop where
  | intro {word gap name space : List Char} (rest : List Char) (worded : word ≠ [])
      (isWord : ∀ c ∈ word, isWordChar c = true) (apart : gap ≠ [])
      (gapBlank : ∀ c ∈ gap, isBlank c = true) (named : name ≠ [])
      (nameWord : ∀ c ∈ name, isWordChar c = true) (spaceBlank : ∀ c ∈ space, isBlank c = true) :
      OpensBlock (word ++ (gap ++ (name ++ (space ++ '\x7b' :: rest))))

/-- Whether the line starts with a closing brace. -/
def closesBlock (line : List Char) : Bool := line.head? == some '\x7d'

/-- The lines of a text behind its first one. -/
def laterLines (cs : List Char) : List (List Char) := (cut (· == '\n') cs).tail

theorem laterLines_cons (c : Char) (cs : List Char) :
    laterLines (c :: cs) = if c = '\n' then cut (· == '\n') cs else laterLines cs := by
  split
  · rename_i feed
    rw [laterLines, cut_cons_of_pos (by simp [feed]), List.tail_cons]
  · rename_i feed
    obtain ⟨piece, pieces, hcs, hccs⟩ := cut_cons_of_not (p := (· == '\n')) (c := c)
      (by simp [feed]) cs
    rw [laterLines, laterLines, hcs, hccs, List.tail_cons, List.tail_cons]

/-- The later lines of a text are later lines of it with something in front. -/
theorem mem_laterLines_append {line : List Char} (h : line ∈ laterLines cs) (front : List Char) :
    line ∈ laterLines (front ++ cs) := by
  induction front with
  | nil => exact h
  | cons c front ih =>
    rw [List.cons_append, laterLines_cons]
    split
    · exact List.mem_of_mem_tail ih
    · exact ih

/-- The first line of a text closes a block if the text starts with a closing brace. -/
theorem exists_cut_eq_cons (cs : List Char) :
    ∃ first, cut (· == '\n') cs = first :: laterLines cs ∧
      closesBlock first = (cs.head? == some '\x7d') := by
  cases cs with
  | nil => exact ⟨[], rfl, rfl⟩
  | cons c cs =>
    by_cases feed : c = '\n'
    · subst feed
      exact ⟨[], by rw [laterLines, cut_cons_of_pos (by rfl), List.tail_cons], rfl⟩
    · obtain ⟨piece, pieces, -, hccs⟩ := cut_cons_of_not (p := (· == '\n')) (c := c)
        (by simp [feed]) cs
      exact ⟨c :: piece, by rw [laterLines, hccs, List.tail_cons], rfl⟩

/-! ## Lines of a block -/

/-- The lines through the first closing brace are the first line of the text, the further lines up
to the first one that closes a block, and the brace alone. -/
theorem cut_take {n : Nat} {first : List Char} (h : closingLength? cs = some n)
    (hcut : cut (· == '\n') cs = first :: laterLines cs) :
    cut (· == '\n') (cs.take n) =
      first :: ((laterLines cs).takeWhile (!closesBlock ·) ++ [['\x7d']]) := by
  induction cs generalizing n first with
  | nil => cases h
  | cons c cs ih =>
    obtain ⟨next, hcs, closes⟩ := exists_cut_eq_cons cs
    rw [laterLines_cons] at hcut ⊢
    rw [closingLength?] at h
    split at h
    · rename_i hc
      obtain rfl := Option.some.inj h
      obtain ⟨rfl, hd⟩ := hc
      rw [cut_cons_of_pos (by rfl), if_pos rfl] at hcut
      obtain ⟨rfl, -⟩ := List.cons.inj hcut
      obtain ⟨rest, rfl⟩ := List.head?_eq_some_iff.1 hd
      rw [if_pos rfl, hcs, List.takeWhile_cons, closes]
      rfl
    · rename_i hc
      obtain ⟨k, hk, rfl⟩ := Option.map_eq_some_iff.1 h
      have through := ih hk hcs
      rw [List.take_succ_cons]
      by_cases feed : c = '\n'
      · subst feed
        have open' : closesBlock next = false := by
          rw [closes]
          simpa using hc
        rw [cut_cons_of_pos (by rfl), if_pos rfl] at hcut
        obtain ⟨rfl, -⟩ := List.cons.inj hcut
        rw [cut_cons_of_pos (by rfl), if_pos rfl, through, hcs, List.takeWhile_cons, open']
        rfl
      · have other : (c == '\n') = false := by simp [feed]
        rw [cut, other, hcs, if_neg feed] at hcut
        obtain ⟨rfl, -⟩ := List.cons.inj hcut
        rw [cut, other, through, if_neg feed]
        rfl

/-- The later lines of a block are those up to the first one that closes a block, and the closing
brace alone. -/
theorem laterLines_take {n : Nat} (h : closingLength? cs = some n) :
    laterLines (cs.take n) = (laterLines cs).takeWhile (!closesBlock ·) ++ [['\x7d']] := by
  obtain ⟨first, hcut, -⟩ := exists_cut_eq_cons cs
  rw [laterLines, cut_take h hcut, List.tail_cons]

/-- A text closes if a later line of it does. -/
theorem exists_closingLength?_iff :
    (∃ n, closingLength? cs = some n) ↔ ∃ line ∈ laterLines cs, closesBlock line := by
  induction cs with
  | nil => simp [closingLength?, laterLines, cut]
  | cons c cs ih =>
    obtain ⟨first, hcut, closes⟩ := exists_cut_eq_cons cs
    rw [closingLength?, laterLines_cons, hcut]
    by_cases feed : c = '\n'
    · by_cases hd : cs.head? = some '\x7d'
      · simp [feed, hd, closes]
      · simp [feed, hd, closes, ← ih]
    · simpa [feed] using ih

/-! ## Texts that put headers and blocks in line -/

/-- A header ends in its first opening brace, and holds no closing one. -/
theorem IsHeader.exists_eq_concat (h : IsHeader header) :
    ∃ front, header = front ++ ['\x7b'] ∧ '\x7b' ∉ front ∧ '\x7d' ∉ front := by
  obtain ⟨known, -, gapBlank, -, nameWord, spaceBlank⟩ := h
  rename_i keyword gap name space
  have keywordWord : keywords.all (·.all isWordChar) = true := by decide +kernel
  have plain : ∀ c ∈ keyword ++ (gap ++ (name ++ space)),
      isWordChar c = true ∨ isBlank c = true := by
    intro c hc
    simp only [List.mem_append] at hc
    rcases hc with hc | hc | hc | hc
    · exact .inl (List.all_eq_true.1 (List.all_eq_true.1 keywordWord _ known) c hc)
    · exact .inr (gapBlank c hc)
    · exact .inl (nameWord c hc)
    · exact .inr (spaceBlank c hc)
  have braces : ∀ c, c = '\x7b' ∨ c = '\x7d' → isWordChar c = false ∧ isBlank c = false := by
    rintro c (rfl | rfl) <;> exact ⟨by decide +kernel, by decide +kernel⟩
  refine ⟨keyword ++ (gap ++ (name ++ space)), by simp, fun mem => ?_, fun mem => ?_⟩
  · simpa [braces] using plain _ mem
  · simpa [braces] using plain _ mem

/-- Of two headers in a text, the one at its front ends first. -/
theorem IsHeader.exists_append {first rest' : List Char} (h : IsHeader header)
    (h' : IsHeader first) (same : front ++ header ++ rest = first ++ rest') :
    ∃ between, front ++ header = first ++ between ∧ rest' = between ++ rest := by
  rcases List.append_eq_append_iff.1 same with ⟨back, hfirst, hrest⟩ | found
  · obtain ⟨name, rfl, -⟩ := h.exists_eq_concat
    obtain ⟨name', rfl, once, -⟩ := h'.exists_eq_concat
    rcases List.eq_nil_or_concat back with rfl | ⟨back, c, rfl⟩
    · exact ⟨[], by simpa using hfirst.symm, by simpa using hrest.symm⟩
    · rw [List.concat_eq_append, ← List.append_assoc] at hfirst
      obtain ⟨inner, -⟩ := List.append_inj' hfirst rfl
      exact absurd (by simp [inner]) once
  · exact found

/-- The header at the end of a text is not cut by what ends in a closing brace. -/
theorem IsHeader.length_lt {n : Nat} (h : IsHeader header)
    (last : ((front ++ (header ++ rest)).take n).getLast? = some '\x7d')
    (inside : front.length < n) : front.length + header.length < n := by
  obtain ⟨name, hname, -, unclosed⟩ := h.exists_eq_concat
  by_contra short
  have nonempty : header.take (n - front.length) ≠ [] := by
    rw [← List.length_pos_iff, List.length_take]
    have := congrArg List.length hname
    rw [List.length_append, List.length_singleton] at this
    omega
  rw [List.take_append, List.take_of_length_le (by omega),
    List.take_append_of_le_length (by omega), List.getLast?_append_of_ne_nil _ nonempty] at last
  have mem : '\x7d' ∈ header := List.mem_of_mem_take (List.mem_of_getLast? last)
  rw [hname, List.mem_append, List.mem_singleton] at mem
  exact mem.elim unclosed (by decide)

/-- What closes behind a text that ends no line closes without that text. -/
theorem closingLength?_of_append {n : Nat} (h : closingLength? (front ++ rest) = some n)
    (behind : front.length < n) (inLine : front.getLast? ≠ some '\n') :
    closingLength? rest = some (n - front.length) := by
  induction front generalizing n with
  | nil => exact h
  | cons c front ih =>
    rw [List.cons_append, closingLength?] at h
    rw [List.length_cons] at behind ⊢
    split at h
    · rename_i hc
      obtain rfl := Option.some.inj h
      have nil : front = [] := List.length_eq_zero_iff.1 (by omega)
      subst nil
      exact absurd (by simp [hc.1]) inLine
    · obtain ⟨k, hk, rfl⟩ := Option.map_eq_some_iff.1 h
      have inLine' : front.getLast? ≠ some '\n' := by
        intro last
        rw [List.getLast?_cons, last] at inLine
        exact inLine rfl
      rw [ih hk (by omega) inLine']
      congr 1
      omega

/-! ## Blocks in a document -/

/-- Another block opens in the block, on a line behind its header. -/
def CarriesOver (block : List Char) : Prop :=
  ∃ header body, IsHeader header ∧ block = header ++ body ∧
    ∃ line ∈ laterLines body, OpensBlock line

/-- No closing line opens a block. -/
theorem OpensBlock.not_closesBlock {line : List Char} (h : OpensBlock line) :
    closesBlock line = false := by
  obtain ⟨rest, worded, isWord, -⟩ := h
  rename_i word gap name space
  obtain ⟨c, word, rfl⟩ := List.exists_cons_of_ne_nil worded
  have letter := isWord c List.mem_cons_self
  rw [Bool.eq_false_iff]
  intro closes
  obtain rfl : c = '\x7d' := by simpa [closesBlock] using closes
  exact absurd letter (by decide +kernel)

/-- A block at the front of a text carries over what opens behind a header inside it. -/
theorem carriesOver_of_inner {n : Nat} (found : blockLength? cs = some n)
    (same : cs = front ++ (header ++ rest)) (inside : front.length < n) (head : IsHeader header)
    {line : List Char} (before : line ∈ (laterLines rest).takeWhile (!closesBlock ·))
    (opens : OpensBlock line) : CarriesOver (cs.take n) := by
  have ends := (isBlock_of_blockLength? found).1.getLast?
  rw [same] at ends
  have within := head.length_lt ends inside
  obtain ⟨k, hk, found⟩ := Option.bind_eq_some_iff.1 found
  obtain ⟨first, behind, head', rfl, rfl⟩ := exists_isHeader_of_headerLength? hk
  rw [List.drop_left] at found
  obtain ⟨m, hm, rfl⟩ := Option.map_eq_some_iff.1 found
  rw [← List.append_assoc] at same
  obtain ⟨between, hbetween, rfl⟩ := head.exists_append head' same.symm
  have lengths := congrArg List.length hbetween
  simp only [List.length_append] at lengths
  -- A header ends no line, so the first closing line behind it closes the block around it too.
  have inLine : between.getLast? ≠ some '\n' := by
    obtain ⟨name, hname, -⟩ := head.exists_eq_concat
    intro feed
    have last := congrArg List.getLast? hbetween
    rw [List.getLast?_append, List.getLast?_append, feed, hname] at last
    simp at last
  have closes := closingLength?_of_append hm (by omega) inLine
  refine ⟨first, between ++ rest.take (m - between.length), head', ?_, line, ?_, opens⟩
  · rw [List.take_length_add_append, List.take_append, List.take_of_length_le (by omega)]
  · refine mem_laterLines_append ?_ between
    rw [laterLines_take closes]
    exact List.mem_append_left _ before

/-- If another block opens behind a header before that block closes, a block is found that carries
the other one over: the one of this header, or one that reaches over the header. -/
theorem exists_carriesOver {atLineStart : Bool} (same : cs = front ++ (header ++ rest))
    (ne : front = [] → atLineStart = true) (starts : startsLine front) (head : IsHeader header)
    {n : Nat} (closes : closingLength? rest = some n) {line : List Char}
    (before : line ∈ (laterLines rest).takeWhile (!closesBlock ·)) (opens : OpensBlock line) :
    ∃ block ∈ blocksFrom atLineStart cs, CarriesOver block := by
  -- Along the search, the header stays ahead until a block is found that begins at or before it.
  fun_induction blocksFrom atLineStart cs generalizing front with
  | case1 =>
    obtain ⟨name, rfl, -⟩ := head.exists_eq_concat
    simp at same
  | case2 atLineStart c cs k hk ih =>
    cases atLineStart with
    | false => cases hk
    | true =>
      by_cases inside : front.length < k + 1
      · exact ⟨_, List.mem_cons_self, carriesOver_of_inner hk same inside head before opens⟩
      · -- The block ends before the header, and not at the end of a line.
        have ends := (isBlock_of_blockLength? hk).1.getLast?
        have parts : (c :: cs.take k) ++ cs.drop k = front ++ (header ++ rest) := by
          rw [← same, List.cons_append, List.take_append_drop]
        obtain ⟨front, rfl⟩ : (c :: cs.take k) <+: front := by
          refine List.prefix_of_prefix_length_le ⟨_, parts⟩ (List.prefix_append _ _) ?_
          rw [List.length_cons, List.length_take]
          omega
        rw [List.append_assoc, List.append_cancel_left_eq] at parts
        have nonempty : front ≠ [] := by
          rintro rfl
          rw [List.take_succ_cons] at ends
          rw [List.append_nil, startsLine, ends] at starts
          exact absurd starts (by decide)
        rw [startsLine_append nonempty] at starts
        obtain ⟨block, hblock, carries⟩ := ih parts (fun nil => absurd nil nonempty) starts
        exact ⟨block, List.mem_cons_of_mem _ hblock, carries⟩
  | case3 atLineStart c cs none ih =>
    cases front with
    | nil =>
      have found : blockLength? (c :: cs) = some (header.length + n) := by
        rw [same, List.nil_append, blockLength?, headerLength?_append head, Option.bind_some,
          List.drop_left, closes, Option.map_some]
      obtain ⟨name, rfl, -⟩ := head.exists_eq_concat
      refine absurd ?_ (none (name.length + n))
      rw [dif_pos (ne rfl), found, List.length_append, List.length_singleton]
      congr 1
      omega
    | cons d front =>
      obtain ⟨rfl, rfl⟩ := List.cons.inj same
      obtain ⟨feed, starts⟩ := startsLine_cons_iff.1 starts
      exact ih rfl (fun nil => by simp [feed nil]) starts

/-! ## What is carried over -/

/-- Every configuration block of the document that closes does so before another block opens. -/
def ClosesBlocks (cs : List Char) : Prop :=
  ∀ front header rest, cs = front ++ (header ++ rest) → startsLine front → IsHeader header →
    (∃ line ∈ laterLines rest, closesBlock line) →
    ∀ line ∈ (laterLines rest).takeWhile (!closesBlock ·), ¬ OpensBlock line

/-- Nothing but configuration is carried over from a document, that is, no other block opens in a
recovered one, just when every configuration block that closes does so before another block
opens. -/
theorem forall_not_carriesOver_iff (existing : String) :
    (∀ block ∈ blocks existing.toList, ¬ CarriesOver block) ↔ ClosesBlocks existing.toList := by
  constructor
  · intro clean front header rest same starts head closes line before opens
    obtain ⟨n, closes⟩ := exists_closingLength?_iff.2 closes
    obtain ⟨block, hblock, carries⟩ :=
      exists_carriesOver same (fun _ => rfl) starts head closes before opens
    exact clean block hblock carries
  · rintro closed _ hblock ⟨header, body, head, rfl, line, hline, opens⟩
    obtain ⟨front, back, same, -, starts, found⟩ := exists_of_mem_blocksFrom hblock
    rw [List.append_assoc, blockLength?, headerLength?_append head, Option.bind_some,
      List.drop_left] at found
    obtain ⟨m, hm, length⟩ := Option.map_eq_some_iff.1 found
    obtain rfl : m = body.length := by simpa using length
    have lines := laterLines_take hm
    rw [List.take_left] at lines
    rw [lines, List.mem_append, List.mem_singleton] at hline
    rcases hline with before | rfl
    · have closes := exists_closingLength?_iff.1 ⟨_, hm⟩
      rw [List.append_assoc] at same
      exact closed front header (body ++ back) same starts head closes line before opens
    · exact absurd opens.not_closesBlock (by decide)

/-- A configuration block whose closing brace is indented, and a model behind it. -/
def indentedClient : List Char :=
  "generator client \x7b\n  provider = \"prisma-client-js\"\n  \x7d\n\n".toList ++
    "model Member \x7b\n  id String @id\n\x7d".toList

/-- The model behind such a block is carried over with it. -/
theorem carriesOver_indentedClient :
    blocks (indentedClient ++ ['\n']) = [indentedClient] ∧ CarriesOver indentedClient := by
  have block : IsBlock indentedClient := by
    have matched : blockLength? indentedClient = some indentedClient.length := by decide +kernel
    have block := (isBlock_of_blockLength? matched).1
    rwa [List.take_length] at block
  have header : IsHeader ("generator".toList ++ ([' '] ++ ("client".toList ++
      ([' '] ++ ['\x7b'])))) :=
    .intro (by decide +kernel) (by simp) (List.all_eq_true.1 (by decide)) (by decide)
      (List.all_eq_true.1 (by decide +kernel)) (List.all_eq_true.1 (by decide))
  have opens : OpensBlock ("model".toList ++ ([' '] ++ ("Member".toList ++
      ([' '] ++ '\x7b' :: [])))) :=
    .intro [] (by decide) (List.all_eq_true.1 (by decide +kernel)) (by simp)
      (List.all_eq_true.1 (by decide)) (by decide) (List.all_eq_true.1 (by decide +kernel))
      (List.all_eq_true.1 (by decide))
  refine ⟨?_, _, indentedClient.drop 18, header, by decide +kernel, _, by decide +kernel, opens⟩
  rw [blocks, blocksFrom_append block, blocksFrom_feed, blocksFrom]

end ModelSchema.Preamble
