import ModelSchema.Proofs.Schema.BlockLines

/-!
# What a fingerprint tells apart

A document without the line that tells its time is its preamble, an empty line, the notice and the
lines of the models. The last line of the notice is a comment, and no line of a model is, so the
parts are found again from behind, whatever stands in the preamble.

## Main definitions

* `Schema.linesAbove` — the lines above the one with the time.

## Main statements

* `Schema.untimed_document_eq` — no other line is lost with the one that tells the time.
* `Schema.parts_eq_of_unlines_eq` — the lines left tell the preamble and the models.
* `Schema.untimedOf_document_eq_iff` — they tell the document for every time.
-/

namespace ModelSchema.Schema

open Text

variable {r r' : Registry} {includeDocs includeDocs' : Bool} {preamble preamble' : String}

/-! ## Lines with the time -/

/-- Whether a line tells the time does not depend on a carriage return at its end. -/
theorem isTimeLine_dropReturn (line : List Char) :
    isTimeLine (dropReturn line) = isTimeLine line := by
  unfold dropReturn
  split
  · rename_i h
    obtain ⟨front, rfl⟩ := List.getLast?_eq_some_iff.1 h
    have other : timePrefix.toList ≠ front ++ ['\r'] := by
      intro same
      have last := congrArg List.getLast? same
      rw [List.getLast?_concat] at last
      exact absurd last (by decide +kernel)
    rw [List.dropLast_concat, Bool.eq_iff_iff, isTimeLine, isTimeLine, List.isPrefixOf_iff_prefix,
      List.isPrefixOf_iff_prefix, List.prefix_concat_iff]
    simp [other]
  · rfl

/-- A preamble in which no line tells a time has no such line after it is trimmed. -/
theorem not_isTimeLine_of_mem_cut
    (untimed : ∀ line ∈ Text.lines preamble.toList, isTimeLine line = false) {piece : List Char}
    (h : piece ∈ cut (· == '\n') (trimLines (trimEnd preamble.toList))) :
    isTimeLine piece = false := by
  rw [cut_trimLines, List.mem_map] at h
  obtain ⟨line, hline, rfl⟩ := h
  obtain ⟨whole, hwhole, start⟩ := exists_mem_cut_of_isPrefix (trimEnd_isPrefix _) hline
  have none : isTimeLine whole = false := by
    obtain rfl | mem | mem := mem_lines_of_mem_cut hwhole
    · decide +kernel
    · exact untimed whole mem
    · rw [← isTimeLine_dropReturn]
      exact untimed _ mem
  rw [Bool.eq_false_iff] at none ⊢
  intro timed
  apply none
  rw [isTimeLine, List.isPrefixOf_iff_prefix] at timed ⊢
  exact timed.trans ((trimEnd_isPrefix line).trans start)

/-! ## Lines of the models -/

/-- The lines of the models are trimmed, so no carriage return is lost in them. -/
theorem lines_modelText (r : Registry) (includeDocs : Bool) :
    Text.lines (modelText r includeDocs) =
      if trimEnd (trimLines (body r includeDocs)) = [] then []
      else cut (· == '\n') (trimEnd (trimLines (body r includeDocs))) := by
  unfold modelText
  simp only
  split
  · rfl
  · exact lines_trimEnd_trimLines _

/-- Each line of the models has a line feed behind it. -/
theorem flatMap_lines_modelText (r : Registry) (includeDocs : Bool) :
    (Text.lines (modelText r includeDocs)).flatMap (· ++ ['\n']) = modelText r includeDocs := by
  rw [lines_modelText, modelText]
  split
  · rfl
  · exact flatMap_cut _

theorem mem_cut_of_mem_lines_modelText {line : List Char}
    (h : line ∈ Text.lines (modelText r includeDocs)) :
    line ∈ cut (· == '\n') (modelText r includeDocs) := by
  rw [lines_modelText] at h
  unfold modelText
  simp only
  split at h
  · cases h
  · rename_i left
    rw [if_neg left, cut_append_cons (by rfl)]
    exact List.mem_append_left _ h

/-- No line of the models starts like a comment. -/
theorem not_comment_of_mem_lines_modelText
    (lines : ∀ b ∈ r.blocks includeDocs, ∀ l ∈ b.lines, IsLine l.toList) {line : List Char}
    (h : line ∈ Text.lines (modelText r includeDocs)) : ¬ commentMark.toList <+: line := by
  have apart : ∀ front ∈ Block.fronts, ¬ front.toList <+: commentMark.toList ∧
      ¬ commentMark.toList <+: front.toList := by decide +kernel
  have hne : commentMark.toList ≠ [] := by decide +kernel
  intro comment
  obtain rfl | ⟨b, -, l, hl, start⟩ :=
    exists_line_of_mem_modelText lines (mem_cut_of_mem_lines_modelText h)
  · exact hne (List.prefix_nil.1 comment)
  · exact Block.not_isPrefix_of_mem_lines hne apart hl (comment.trans start)

/-! ## Parts of a document without its time -/

/-- The lines above the one with the time. -/
def linesAbove (preamble : String) : List (List Char) :=
  cut (· == '\n') (trimLines (trimEnd preamble.toList)) ++
    [] :: cut (· == '\n') (trimLines notice.toList)

theorem cut_above (preamble : String) :
    cut (· == '\n') (trimLines (trimEnd preamble.toList) ++
      '\n' :: '\n' :: trimLines notice.toList) = linesAbove preamble := by
  rw [cut_append_cons (by rfl), cut_cons_of_pos (by rfl), linesAbove]

/-- The last line above the one with the time is a comment, whatever the preamble is. -/
theorem exists_linesAbove_append_eq : ∃ front last, commentMark.toList <+: last ∧
    ∀ (preamble : String) (below : List (List Char)), linesAbove preamble ++ below =
      cut (· == '\n') (trimLines (trimEnd preamble.toList)) ++ front ++ last :: below := by
  obtain ⟨front, last, hnotice⟩ := (List.eq_nil_or_concat' (cut (· == '\n')
    (trimLines notice.toList))).resolve_left (cut_ne_nil _ _)
  refine ⟨[] :: front, last, ?_, fun preamble below => ?_⟩
  · exact (isComment_of_mem_notice (hnotice ▸ List.mem_concat_self)).1
  · simp [linesAbove, hnotice]

theorem isLine_of_mem_linesAbove {line : List Char} (h : line ∈ linesAbove preamble) :
    IsLine line :=
  isLine_of_mem_cut (cut_above preamble ▸ h)

/-- The lines above the one with the time are trimmed. -/
theorem dropReturn_of_mem_linesAbove {line : List Char} (h : line ∈ linesAbove preamble) :
    dropReturn line = line := by
  rw [← cut_above, ← trimLines_feed, ← trimLines_append_feed, cut_trimLines] at h
  obtain ⟨line, -, rfl⟩ := List.mem_map.1 h
  exact dropReturn_trimEnd line

theorem not_isTimeLine_of_mem_linesAbove
    (untimed : ∀ line ∈ Text.lines preamble.toList, isTimeLine line = false) {line : List Char}
    (h : line ∈ linesAbove preamble) : isTimeLine line = false := by
  rw [linesAbove, List.mem_append, List.mem_cons] at h
  rcases h with h | rfl | h
  · exact not_isTimeLine_of_mem_cut untimed h
  · decide +kernel
  · exact (isComment_of_mem_notice h).2

/-- A document without the line that tells its time keeps all its other lines. -/
theorem untimed_document_eq
    (untimedPreamble : ∀ line ∈ Text.lines preamble.toList, isTimeLine line = false)
    (lines : ∀ b ∈ r.blocks includeDocs, ∀ l ∈ b.lines, IsLine l.toList) (time : Timestamp) :
    untimed (document r includeDocs preamble time).toList =
      unlines (linesAbove preamble ++ Text.lines (modelText r includeDocs)) := by
  have above : (linesAbove preamble).map dropReturn = linesAbove preamble := by
    rw [List.map_congr_left fun line => dropReturn_of_mem_linesAbove, List.map_id']
  have aboveKept : (linesAbove preamble).filter (!isTimeLine ·) = linesAbove preamble := by
    rw [List.filter_eq_self]
    intro line hline
    rw [not_isTimeLine_of_mem_linesAbove untimedPreamble hline]
    rfl
  have belowKept : (Text.lines (modelText r includeDocs)).filter (!isTimeLine ·) =
      Text.lines (modelText r includeDocs) := by
    rw [List.filter_eq_self]
    intro line hline
    have other : isTimeLine line ≠ true := fun timed =>
      not_comment_of_mem_lines_modelText lines hline (isComment_of_isTimeLine timed)
    simp [other]
  rw [untimed_document, cut_above, above, aboveKept, belowKept]

/-- A list is taken apart in one way at the last place of an entry. -/
theorem append_cons_inj_of_not_mem {α : Type} {a a' b b' : List α} {x : α} (hb : x ∉ b)
    (hb' : x ∉ b') : a ++ x :: b = a' ++ x :: b' ↔ a = a' ∧ b = b' := by
  have last : ∀ {b b' c : List α}, x ∉ b → x :: b = c ++ x :: b' → c = [] ∧ b = b' := by
    intro b b' c hb h
    cases c with
    | nil => exact ⟨rfl, (List.cons.inj h).2⟩
    | cons y c =>
      rw [(List.cons.inj h).2] at hb
      exact absurd (List.mem_append_right c List.mem_cons_self) hb
  constructor
  · intro h
    rcases List.append_eq_append_iff.1 h with ⟨c, rfl, rest⟩ | ⟨c, rfl, rest⟩
    · obtain ⟨rfl, rfl⟩ := last hb rest
      exact ⟨(List.append_nil a).symm, rfl⟩
    · obtain ⟨rfl, rfl⟩ := last hb' rest
      exact ⟨List.append_nil a', rfl⟩
  · rintro ⟨rfl, rfl⟩
    rfl

/-- The lines of a document without its time tell its preamble, with trimmed lines, and the text of
its models. -/
theorem parts_eq_of_unlines_eq
    (lines : ∀ b ∈ r.blocks includeDocs, ∀ l ∈ b.lines, IsLine l.toList)
    (lines' : ∀ b ∈ r'.blocks includeDocs', ∀ l ∈ b.lines, IsLine l.toList)
    (h : unlines (linesAbove preamble ++ Text.lines (modelText r includeDocs)) =
      unlines (linesAbove preamble' ++ Text.lines (modelText r' includeDocs'))) :
    trimLines (trimEnd preamble.toList) = trimLines (trimEnd preamble'.toList) ∧
      modelText r includeDocs = modelText r' includeDocs' := by
  have apart : ∀ (preamble : String) (r : Registry) (includeDocs : Bool),
      cut (· == '\n') (unlines (linesAbove preamble ++ Text.lines (modelText r includeDocs))) =
        linesAbove preamble ++ Text.lines (modelText r includeDocs) := by
    intro preamble r includeDocs
    have hne : linesAbove preamble ≠ [] := cut_above preamble ▸ cut_ne_nil _ _
    refine cut_unlines (List.append_ne_nil_of_left_ne_nil hne _) ?_
    intro line hline
    rcases List.mem_append.1 hline with hline | hline
    · exact isLine_of_mem_linesAbove hline
    · exact isLine_of_mem_lines hline
  obtain ⟨front, last, comment, above⟩ := exists_linesAbove_append_eq
  have same := congrArg (cut (· == '\n')) h
  rw [apart, apart, above, above, append_cons_inj_of_not_mem
    (fun hm => not_comment_of_mem_lines_modelText lines hm comment)
    (fun hm => not_comment_of_mem_lines_modelText lines' hm comment)] at same
  obtain ⟨preambles, models⟩ := same
  have texts := congrArg (·.flatMap (· ++ ['\n'])) models
  simp only [flatMap_lines_modelText] at texts
  exact ⟨cut_inj.1 (List.append_cancel_right preambles), texts⟩

/-! ## Fingerprints -/

/-- The fingerprint of a document looks at all of it but the time: if names hold no line feed and no
line of a preamble tells a time, documents made at any two times agree without their lines with the
time if and only if they agree whenever they are made at the same time. -/
theorem untimedOf_document_eq_iff {suffixes suffixes' : List String}
    (names : (r.resolve suffixes).1.HasLineNames)
    (names' : (r'.resolve suffixes').1.HasLineNames)
    (untimedPreamble : ∀ line ∈ Text.lines preamble.toList, isTimeLine line = false)
    (untimedPreamble' : ∀ line ∈ Text.lines preamble'.toList, isTimeLine line = false)
    (includeDocs : Bool) (time time' : Timestamp) :
    untimedOf (document (r.resolve suffixes).1 includeDocs preamble time) =
        untimedOf (document (r'.resolve suffixes').1 includeDocs preamble' time') ↔
      ∀ t, document (r.resolve suffixes).1 includeDocs preamble t =
        document (r'.resolve suffixes').1 includeDocs preamble' t := by
  have lines := names.isLine_of_mem_blocks includeDocs
  have lines' := names'.isLine_of_mem_blocks includeDocs
  have untimed (t : Timestamp) := untimed_document_eq untimedPreamble lines t
  have untimed' (t : Timestamp) := untimed_document_eq untimedPreamble' lines' t
  constructor
  · intro h t
    rw [untimedOf, untimedOf, String.ofList_inj, untimed, untimed'] at h
    obtain ⟨preambles, models⟩ := parts_eq_of_unlines_eq lines lines' h
    rw [← String.toList_inj, document_eq, document_eq, preambles, models]
  · intro h
    have same := congrArg untimedOf (h time)
    rw [untimedOf, untimedOf, untimed, untimed'] at same
    rw [untimedOf, untimedOf, untimed, untimed', same]

/-- A model whose doc comment reads like the notice. -/
def noticeLike : Registry where
  models := [{ name := "Member", sourceFile := "member.ts",
               doc := some "Edits below are kept.\n// Generated at: noon",
               properties := [.declared "id" "string" ⟨.string, false⟩] }]

/-- Preambles that differ in blanks at the ends of their lines give the same documents. -/
theorem document_noticeLike_eq :
    (noticeLike.resolve []).1.HasLineNames ∧
    (∀ line ∈ Text.lines "// Edits below\ngenerator db \x7b\x7d".toList,
      isTimeLine line = false) ∧
    (∀ line ∈ Text.lines "// Edits below \ngenerator db \x7b\x7d\r\n\n".toList,
      isTimeLine line = false) ∧
    ∀ t, document (noticeLike.resolve []).1 true "// Edits below\ngenerator db \x7b\x7d" t =
      document (noticeLike.resolve []).1 true "// Edits below \ngenerator db \x7b\x7d\r\n\n" t := by
  have names : (noticeLike.resolve []).1.HasLineNames := by
    unfold Registry.HasLineNames
    decide +kernel
  have untimedPreamble : ∀ line ∈ Text.lines "// Edits below\ngenerator db \x7b\x7d".toList,
      isTimeLine line = false := by decide +kernel
  have untimedPreamble' : ∀ line ∈
      Text.lines "// Edits below \ngenerator db \x7b\x7d\r\n\n".toList,
      isTimeLine line = false := by decide +kernel
  have trimmed : trimLines (trimEnd "// Edits below\ngenerator db \x7b\x7d".toList) =
      trimLines (trimEnd "// Edits below \ngenerator db \x7b\x7d\r\n\n".toList) := by
    decide +kernel
  have agree := untimedOf_document_eq_iff names names untimedPreamble untimedPreamble' true
    ⟨0, 0⟩ ⟨60, 0⟩
  refine ⟨names, untimedPreamble, untimedPreamble', agree.1 ?_⟩
  rw [untimedOf, untimedOf, untimed_document, untimed_document, trimmed]

end ModelSchema.Schema
