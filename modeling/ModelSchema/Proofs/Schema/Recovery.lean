import ModelSchema.Proofs.Schema.BlockLines
import ModelSchema.Proofs.Schema.ConfigurationBlock

/-!
# Recovery of preambles

The configuration blocks of a document are found again in the document that is made with them: they
stand at its front, and no line behind them starts one.

## Main definitions

* `Preamble.StartsBlock` — a line that starts with a keyword.
* `Preamble.startsLine` — texts behind which a line starts.

## Main statements

* `Preamble.exists_of_mem_blocksFrom` — what is found are blocks at the beginning of a line.
* `Preamble.blocks_joinWith` — blocks put together are found again.
* `Preamble.exists_blocks_load` — every preamble is made of blocks.
* `Preamble.trimLines_load` — the preamble recovered from a document gives the same document.
-/

namespace ModelSchema.Preamble

open Text

/-! ## Blocks of a text -/

/-- The line starts with a keyword. -/
def StartsBlock (line : List Char) : Prop := ∃ keyword ∈ keywords, keyword <+: line

instance (line : List Char) : Decidable (StartsBlock line) :=
  inferInstanceAs (Decidable (∃ keyword ∈ keywords, keyword <+: line))

theorem StartsBlock.of_isPrefix {piece line : List Char} (h : StartsBlock piece)
    (start : piece <+: line) : StartsBlock line := by
  obtain ⟨keyword, known, front⟩ := h
  exact ⟨keyword, known, front.trans start⟩

/-- A block starts where its first line starts one. -/
theorem startsBlock_of_blockLength? {cs line : List Char} {lines : List (List Char)} {n : Nat}
    (h : blockLength? cs = some n) (hcut : cut (· == '\n') cs = line :: lines) :
    StartsBlock line := by
  obtain ⟨k, hk, -⟩ := Option.bind_eq_some_iff.1 h
  obtain ⟨header, rest, ⟨known, -, -, -, -, -⟩, rfl, -⟩ := exists_isHeader_of_headerLength? hk
  rename_i keyword gap name space
  have single : cut (· == '\n') keyword = [keyword] := by
    refine cut_of_isLine fun hm => ?_
    have blank := not_isBlank_of_mem_keyword known _ hm
    exact absurd blank (by decide)
  obtain ⟨front, last, first, back, hkey, -, hwhole⟩ := exists_cut_append (· == '\n') keyword
    (gap ++ (name ++ (space ++ ['\x7b'])) ++ rest)
  rw [List.append_assoc, hwhole] at hcut
  rw [single] at hkey
  obtain ⟨rfl, rfl⟩ : front = [] ∧ last = keyword := by
    cases front with
    | nil => exact ⟨rfl, (List.singleton_inj.1 hkey).symm⟩
    | cons l front => simp at hkey
  obtain ⟨rfl, -⟩ := List.cons.inj hcut
  exact ⟨last, known, List.prefix_append last first⟩

theorem blocksFrom_of_none {atLineStart : Bool} {c : Char} {cs : List Char}
    (h : atLineStart = true → blockLength? (c :: cs) = none) :
    blocksFrom atLineStart (c :: cs) = blocksFrom (c == '\n') cs := by
  rw [blocksFrom]
  cases atLineStart with
  | false => rfl
  | true => simp [h rfl]

/-- No block starts in lines without keywords at their front. -/
theorem blocksFrom_eq_nil {cs : List Char} {atLineStart : Bool}
    (h : ∀ line ∈ (if atLineStart then cut (· == '\n') cs else (cut (· == '\n') cs).tail),
      ¬ StartsBlock line) : blocksFrom atLineStart cs = [] := by
  induction cs generalizing atLineStart with
  | nil => rw [blocksFrom]
  | cons c cs ih =>
    obtain ⟨line, lines, hcut⟩ := List.exists_cons_of_ne_nil (cut_ne_nil (· == '\n') (c :: cs))
    rw [blocksFrom_of_none]
    · apply ih
      by_cases hc : c = '\n'
      · subst hc
        rw [cut_cons_of_pos (by rfl)] at h
        cases atLineStart with
        | false => simpa using h
        | true => exact fun l hl => h l (List.mem_cons_of_mem _ hl)
      · have feed : (c == '\n') = false := by simp [hc]
        obtain ⟨piece, pieces, hcs, hccs⟩ := cut_cons_of_not (p := (· == '\n')) feed cs
        rw [hccs] at h
        rw [feed, hcs]
        cases atLineStart with
        | false => simpa using h
        | true => exact fun l hl => h l (List.mem_cons_of_mem _ hl)
    · rintro rfl
      rw [Option.eq_none_iff_forall_ne_some]
      intro n hn
      exact h line (by simp [hcut]) (startsBlock_of_blockLength? hn hcut)

/-- A block at the beginning of a line is found. -/
theorem blocksFrom_append {block : List Char} (h : IsBlock block) (rest : List Char) :
    blocksFrom true (block ++ rest) = block :: blocksFrom false rest := by
  have matched := blockLength?_append h rest
  cases block with
  | nil =>
    have ends := h.getLast?
    cases ends
  | cons c block =>
    rw [List.cons_append] at matched ⊢
    rw [blocksFrom]
    simp [matched]

theorem blocksFrom_feed (atLineStart : Bool) (cs : List Char) :
    blocksFrom atLineStart ('\n' :: cs) = blocksFrom true cs := by
  rw [blocksFrom_of_none]
  · rfl
  · rintro -
    rw [Option.eq_none_iff_forall_ne_some]
    intro n hn
    obtain ⟨keyword, known, start⟩ :=
      startsBlock_of_blockLength? hn (cut_cons_of_pos (by rfl) cs)
    have hne : ∀ keyword ∈ keywords, keyword ≠ [] := by decide +kernel
    exact hne keyword known (List.prefix_nil.1 start)

/-- Whether a line starts behind a text. -/
def startsLine (front : List Char) : Bool := front.getLast?.all (· == '\n')

theorem startsLine_append {back : List Char} (ne : back ≠ []) (front : List Char) :
    startsLine (front ++ back) = startsLine back := by
  rw [startsLine, startsLine, List.getLast?_append_of_ne_nil _ ne]

theorem startsLine_cons_iff {c : Char} {front : List Char} :
    startsLine (c :: front) ↔ (front = [] → c = '\n') ∧ startsLine front := by
  cases front with
  | nil => simp [startsLine]
  | cons d front => simp [← startsLine_append (List.cons_ne_nil d front) [c]]

/-- Where a block is found: at the beginning of a line, behind whatever was read before. -/
theorem exists_of_mem_blocksFrom {cs block : List Char} {atLineStart : Bool}
    (h : block ∈ blocksFrom atLineStart cs) :
    ∃ front back, cs = front ++ (block ++ back) ∧ (front = [] → atLineStart = true) ∧
      startsLine front ∧ blockLength? (block ++ back) = some block.length := by
  fun_induction blocksFrom atLineStart cs with
  | case1 => cases h
  | case2 atLineStart c cs n hn ih =>
    cases atLineStart with
    | false => cases hn
    | true =>
      have within := (isBlock_of_blockLength? hn).2
      rw [List.length_cons] at within
      rcases List.mem_cons.1 h with rfl | h
      · refine ⟨[], cs.drop n, by simp, by simp, rfl, ?_⟩
        have length : (c :: cs.take n).length = n + 1 := by
          rw [List.length_cons, List.length_take_of_le (by omega)]
        rw [length, List.cons_append, List.take_append_drop]
        exact hn
      · obtain ⟨front, back, same, ne, starts, found⟩ := ih h
        have nonempty : front ≠ [] := fun nil => Bool.false_ne_true (ne nil)
        refine ⟨c :: cs.take n ++ front, back, ?_, by simp, ?_, found⟩
        · rw [List.append_assoc, ← same, List.cons_append, List.take_append_drop]
        · rwa [startsLine_append nonempty]
  | case3 atLineStart c cs _ ih =>
    obtain ⟨front, back, same, ne, starts, found⟩ := ih h
    refine ⟨c :: front, back, by rw [List.cons_append, same], by simp, ?_, found⟩
    exact startsLine_cons_iff.2 ⟨fun nil => by simpa using ne nil, starts⟩

/-- Only blocks are found. -/
theorem isBlock_of_mem_blocksFrom {cs block : List Char} {atLineStart : Bool}
    (h : block ∈ blocksFrom atLineStart cs) : IsBlock block := by
  obtain ⟨front, back, -, -, -, found⟩ := exists_of_mem_blocksFrom h
  have block := (isBlock_of_blockLength? found).1
  rwa [List.take_left] at block

/-- Blocks with empty lines between them are found again, if no line behind them starts one. -/
theorem blocks_joinWith {bs : List (List Char)} (hne : bs ≠ []) (h : ∀ b ∈ bs, IsBlock b)
    {rest : List Char} (hrest : ∀ line ∈ cut (· == '\n') rest, ¬ StartsBlock line) :
    blocks (joinWith ['\n', '\n'] bs ++ '\n' :: rest) = bs := by
  unfold blocks
  induction bs with
  | nil => exact absurd rfl hne
  | cons b bs ih =>
    have block := h b List.mem_cons_self
    by_cases hnil : bs = []
    · rw [hnil, joinWith_singleton, blocksFrom_append block, blocksFrom_feed,
        blocksFrom_eq_nil (by simpa using hrest)]
    · rw [joinWith_cons _ _ hnil, List.append_assoc, List.append_assoc,
        blocksFrom_append block, List.cons_append, List.cons_append, List.nil_append,
        blocksFrom_feed, blocksFrom_feed,
        ih hnil fun b hb => h b (List.mem_cons_of_mem _ hb)]

/-! ## Preambles -/

/-- A line that starts with a space closes nothing. -/
theorem closingLength?_line {line rest : List Char} (h : IsLine line)
    (closes : closingLength? rest = some rest.length) :
    closingLength? ('\n' :: ' ' :: (line ++ rest)) =
      some ('\n' :: ' ' :: (line ++ rest)).length := by
  have through : ∀ line : List Char, IsLine line →
      closingLength? (line ++ rest) = some (line ++ rest).length := by
    intro line h
    induction line with
    | nil => exact closes
    | cons c line ih =>
      have hc : ¬ (c = '\n' ∧ (line ++ rest).head? = some '\x7d') := by
        rintro ⟨rfl, -⟩
        exact h List.mem_cons_self
      rw [List.cons_append, closingLength?, if_neg hc,
        ih fun hm => h (List.mem_cons_of_mem _ hm)]
      rfl
  have spaced : IsLine (' ' :: line) := by
    intro hm
    rcases List.mem_cons.1 hm with hm | hm
    · exact absurd hm (by decide)
    · exact h hm
  have rest := through _ spaced
  rw [List.cons_append] at rest
  rw [closingLength?, if_neg (by simp), rest]
  rfl

/-- The first block of a fresh preamble. -/
def clientBlock : List Char :=
  "generator client \x7b\n  provider = \"prisma-client-js\"\n\x7d".toList

theorem isBlock_clientBlock : IsBlock clientBlock := by
  have matched : blockLength? clientBlock = some clientBlock.length := by decide +kernel
  have block := (isBlock_of_blockLength? matched).1
  rwa [List.take_length] at block

/-- The second block of a fresh preamble. -/
def databaseBlock (provider urlVariable : List Char) : List Char :=
  ("datasource".toList ++ ([' '] ++ (['d', 'b'] ++ ([' '] ++ ['\x7b'])))) ++
    ('\n' :: ' ' :: ((" provider = \"".toList ++ provider ++ ['"']) ++
      ('\n' :: ' ' :: ((" url      = env(\"".toList ++ urlVariable ++ ['"', ')']) ++
        ['\n', '\x7d']))))

theorem isBlock_databaseBlock {provider urlVariable : List Char} (hp : IsLine provider)
    (hu : IsLine urlVariable) : IsBlock (databaseBlock provider urlVariable) := by
  have header : IsHeader ("datasource".toList ++ ([' '] ++ (['d', 'b'] ++ ([' '] ++ ['\x7b'])))) :=
    .intro (by decide +kernel) (by simp) (List.all_eq_true.1 (by decide)) (by simp)
      (List.all_eq_true.1 (by decide +kernel)) (List.all_eq_true.1 (by decide))
  have providerLine : IsLine (" provider = \"".toList ++ provider ++ ['"']) :=
    (IsLine.append (by decide) hp).append (by decide)
  have urlLine : IsLine (" url      = env(\"".toList ++ urlVariable ++ ['"', ')']) :=
    (IsLine.append (by decide +kernel) hu).append (by decide)
  have brace : closingLength? ['\n', '\x7d'] = some 2 := rfl
  exact .intro header (closingLength?_line providerLine (closingLength?_line urlLine brace))

/-- A fresh preamble is two blocks. -/
theorem defaultPreamble_eq (provider urlVariable : String) :
    (Schema.defaultPreamble provider urlVariable).toList =
      joinWith ['\n', '\n'] [clientBlock, databaseBlock provider.toList urlVariable.toList] := by
  have first :
      "generator client \x7b\n  provider = \"prisma-client-js\"\n\x7d\n\ndatasource db \x7b\n".toList =
        clientBlock ++ '\n' :: '\n' ::
          ("datasource".toList ++ [' ', 'd', 'b', ' ', '\x7b', '\n']) := by
    decide +kernel
  have second : "  provider = \"".toList = ' ' :: " provider = \"".toList := by decide +kernel
  have third : "\"\n  url      = env(\"".toList =
      '"' :: '\n' :: ' ' :: " url      = env(\"".toList := by
    decide +kernel
  have last : "\")\n\x7d".toList = ['"', ')', '\n', '\x7d'] := by decide +kernel
  -- The literals are kept out of the rewriting, which would compare them with each other.
  have parts : ∀ {s t u v : String} {client keyword a b : List Char},
      s.toList = client ++ '\n' :: '\n' :: (keyword ++ [' ', 'd', 'b', ' ', '\x7b', '\n']) →
      t.toList = ' ' :: a → u.toList = '"' :: '\n' :: ' ' :: b →
      v.toList = ['"', ')', '\n', '\x7d'] →
      (s ++ t ++ provider ++ u ++ urlVariable ++ v).toList =
        joinWith ['\n', '\n'] [client,
          (keyword ++ ([' '] ++ (['d', 'b'] ++ ([' '] ++ ['\x7b'])))) ++
            ('\n' :: ' ' :: ((a ++ provider.toList ++ ['"']) ++
              ('\n' :: ' ' :: ((b ++ urlVariable.toList ++ ['"', ')']) ++
                ['\n', '\x7d']))))] := by
    intro s t u v client keyword a b hs ht hu hv
    simp [joinWith, hs, ht, hu, hv]
  exact parts first second third last

/-- Trimming blocks put together trims each of them. -/
theorem trimLines_joinWith (bs : List (List Char)) :
    trimLines (joinWith ['\n', '\n'] bs) = joinWith ['\n', '\n'] (bs.map trimLines) := by
  induction bs with
  | nil => rfl
  | cons b bs ih =>
    by_cases hnil : bs = []
    · simp [hnil]
    · rw [List.map_cons, joinWith_cons _ _ hnil, joinWith_cons _ _ (by simpa using hnil), ← ih]
      simp [trimLines_append_feed]

theorem isBlock_of_mem_map_trimLines {bs : List (List Char)} (h : ∀ b ∈ bs, IsBlock b) :
    ∀ b ∈ bs.map trimLines, IsBlock b := by
  intro b hb
  obtain ⟨block, hblock, rfl⟩ := List.mem_map.1 hb
  exact (h block hblock).trimLines

/-- Blocks put together end in a closing brace. -/
theorem trimEnd_joinWith {bs : List (List Char)} (hne : bs ≠ []) (h : ∀ b ∈ bs, IsBlock b) :
    trimEnd (joinWith ['\n', '\n'] bs) = joinWith ['\n', '\n'] bs := by
  have last : (joinWith ['\n', '\n'] bs).getLast? = some '\x7d' := by
    induction bs with
    | nil => exact absurd rfl hne
    | cons b bs ih =>
      by_cases hnil : bs = []
      · simpa [hnil] using (h b List.mem_cons_self).getLast?
      · rw [joinWith_cons _ _ hnil, List.getLast?_append,
          ih hnil fun b hb => h b (List.mem_cons_of_mem _ hb)]
        rfl
  obtain ⟨front, hfront⟩ := List.getLast?_eq_some_iff.1 last
  rw [hfront]
  exact trimEnd_append_cons (by decide) front []

theorem exists_blocks_recover? {existing text : String} (h : recover? existing = some text) :
    ∃ bs, bs ≠ [] ∧ (∀ b ∈ bs, IsBlock b) ∧ text.toList = joinWith ['\n', '\n'] bs := by
  unfold recover? at h
  split at h
  · cases h
  · rename_i hne
    obtain rfl := Option.some.inj h
    exact ⟨blocks existing.toList, hne, fun b hb => isBlock_of_mem_blocksFrom hb,
      String.toList_ofList⟩

/-- The preamble of the next document is made of blocks, wherever it comes from. -/
theorem exists_blocks_load {provider urlVariable : String} (hp : IsLine provider.toList)
    (hu : IsLine urlVariable.toList) (keep : Bool) (existing : Option String) :
    ∃ bs, bs ≠ [] ∧ (∀ b ∈ bs, IsBlock b) ∧
      (load keep provider urlVariable existing).text.toList = joinWith ['\n', '\n'] bs := by
  unfold load
  split
  · rename_i text h
    obtain ⟨rfl, h⟩ : keep = true ∧ existing.bind recover? = some text := by
      cases keep with
      | false => cases h
      | true => exact ⟨rfl, h⟩
    obtain ⟨document, -, h⟩ := Option.bind_eq_some_iff.1 h
    exact exists_blocks_recover? h
  · refine ⟨_, by simp, ?_, defaultPreamble_eq provider urlVariable⟩
    simp [isBlock_clientBlock, isBlock_databaseBlock hp hu]

/-! ## Documents -/

/-- No comment starts a configuration block. -/
theorem not_startsBlock_of_isComment {line : List Char}
    (h : Schema.commentMark.toList <+: line) : ¬ StartsBlock line := by
  have apart : ∀ keyword ∈ keywords, ¬ keyword <+: Schema.commentMark.toList ∧
      ¬ Schema.commentMark.toList <+: keyword := by decide +kernel
  rintro ⟨keyword, known, start⟩
  rcases List.prefix_or_prefix_of_prefix start h with inside | inside
  · exact (apart keyword known).1 inside
  · exact (apart keyword known).2 inside

/-- No line of a model's block starts a configuration block. -/
theorem not_startsBlock_of_mem_lines {b : Block} {l : String} (h : l ∈ b.lines) :
    ¬ StartsBlock l.toList := by
  have apart : ∀ keyword ∈ keywords, keyword ≠ [] ∧
      ∀ front ∈ Block.fronts, ¬ front.toList <+: keyword ∧ ¬ keyword <+: front.toList := by
    decide +kernel
  rintro ⟨keyword, known, start⟩
  obtain ⟨hne, apart⟩ := apart keyword known
  exact Block.not_isPrefix_of_mem_lines hne apart h start

/-- No line behind the preamble of a document starts a configuration block. -/
theorem not_startsBlock_of_mem_document {r : Registry} {includeDocs : Bool}
    (lines : ∀ b ∈ r.blocks includeDocs, ∀ l ∈ b.lines, IsLine l.toList) (time : Timestamp)
    {line : List Char}
    (h : line ∈ cut (· == '\n') ('\n' :: (trimLines Schema.notice.toList ++
      '\n' :: (Schema.timeLine time ++ '\n' :: Schema.modelText r includeDocs)))) :
    ¬ StartsBlock line := by
  rw [cut_cons_of_pos (by rfl), cut_append_cons (by rfl), cut_append_cons (by rfl),
    cut_of_isLine (Schema.isLine_timeLine time), List.mem_cons, List.mem_append,
    List.mem_append, List.mem_singleton] at h
  rcases h with rfl | h | rfl | h
  · decide
  · exact not_startsBlock_of_isComment (Schema.isComment_of_mem_notice h).1
  · exact not_startsBlock_of_isComment
      (Schema.isComment_of_isTimeLine (Schema.isTimeLine_timeLine time))
  · rcases Schema.exists_line_of_mem_modelText lines h with rfl | ⟨b, -, l, hl, start⟩
    · decide
    · exact fun starts => not_startsBlock_of_mem_lines hl (starts.of_isPrefix start)

/-- The preamble recovered from a document is the one it was made with, with trimmed lines. -/
theorem recover?_document {r : Registry} {includeDocs : Bool}
    (lines : ∀ b ∈ r.blocks includeDocs, ∀ l ∈ b.lines, IsLine l.toList) (time : Timestamp)
    {preamble : String} {bs : List (List Char)} (hne : bs ≠ []) (h : ∀ b ∈ bs, IsBlock b)
    (hbs : preamble.toList = joinWith ['\n', '\n'] bs) :
    recover? (Schema.document r includeDocs preamble time) =
      some (String.ofList (trimLines preamble.toList)) := by
  have found := blocks_joinWith (by simpa using hne) (isBlock_of_mem_map_trimLines h) fun _ =>
    not_startsBlock_of_mem_document lines time
  rw [← trimLines_joinWith, ← trimEnd_joinWith hne h, ← hbs, ← Schema.document_eq] at found
  rw [recover?, found]
  cases bs with
  | nil => exact absurd rfl hne
  | cons b bs =>
    rw [hbs, trimLines_joinWith]
    rfl

/-- The preamble of the next document gives that document the same lines. -/
theorem trimLines_load {r : Registry} {includeDocs : Bool}
    (lines : ∀ b ∈ r.blocks includeDocs, ∀ l ∈ b.lines, IsLine l.toList) (time : Timestamp)
    {provider urlVariable : String} (hp : IsLine provider.toList) (hu : IsLine urlVariable.toList)
    (keep : Bool) (existing : Option String) :
    let preamble := (load keep provider urlVariable existing).text
    trimLines (trimEnd (load keep provider urlVariable
        (some (Schema.document r includeDocs preamble time))).text.toList) =
      trimLines (trimEnd preamble.toList) := by
  intro preamble
  obtain ⟨bs, hne, hbs, same⟩ := exists_blocks_load hp hu keep existing
  cases keep with
  | false => rfl
  | true =>
    have again := recover?_document lines time hne hbs same
    have text : (load true provider urlVariable
        (some (Schema.document r includeDocs preamble time))).text =
        String.ofList (trimLines preamble.toList) := by
      simp only [load, if_true, Option.bind_some]
      rw [again]
    rw [text, String.toList_ofList, same, trimEnd_joinWith hne hbs, trimLines_joinWith,
      trimEnd_joinWith (by simpa using hne) (isBlock_of_mem_map_trimLines hbs),
      ← trimLines_joinWith, trimLines_trimLines]

end ModelSchema.Preamble
