import ModelSchema.Proofs.Schema.Fields
import ModelSchema.Proofs.Text.Blank

/-!
# Lines of a document

A finished document is its preamble with trimmed lines, the notice, the line with the time, and the
trimmed lines of the models. Without the line with the time nothing in it depends on the time.

## Main definitions

* `Schema.notice`, `Schema.timeLine`, `Schema.modelText` — the parts behind the preamble.
* `Schema.commentMark` — what the lines of the notice and the one with the time start with.

## Main statements

* `Schema.finish_eq` — finishing is trimming every line and then the end.
* `Schema.document_eq` — the parts of a document.
* `Schema.untimed_append_timeLine` — what is left without the line with the time.
-/

namespace ModelSchema.Schema

open Text

/-! ## White space -/

theorem trimEnd_dropReturn (cs : List Char) : trimEnd (dropReturn cs) = trimEnd cs := by
  obtain ⟨blanks, blank, same⟩ := exists_eq_append_dropReturn cs
  exact (trimEnd_append blank (dropReturn cs)).symm.trans (congrArg trimEnd same.symm)

/-- The empty line behind the last line feed of a text makes no difference. -/
theorem trimEnd_unlines_endedLines {pieces : List (List Char)} (hne : pieces ≠ []) :
    trimEnd (unlines ((endedLines pieces).map trimEnd)) =
      trimEnd (unlines (pieces.map trimEnd)) := by
  obtain ⟨front, last, rfl⟩ := (List.eq_nil_or_concat' pieces).resolve_left hne
  have ended : endedLines (front ++ [last]) =
      front.map dropReturn ++ if last.isEmpty then [] else [last] :=
    endedLines_append front (List.cons_ne_nil last [])
  rw [ended, List.map_append, List.map_map, List.map_append]
  have trimmed : front.map (trimEnd ∘ dropReturn) = front.map trimEnd :=
    List.map_congr_left fun cs _ => trimEnd_dropReturn cs
  rw [trimmed]
  cases last with
  | cons c cs => rfl
  | nil =>
    rw [List.isEmpty_nil, if_pos rfl, List.map_nil, List.append_nil]
    exact (trimEnd_unlines_concat_nil _).symm

/-- Finishing a text trims each of its lines, and then what the whole ends with. -/
theorem finish_eq (cs : List Char) : finish cs = trimEnd (trimLines cs) ++ ['\n'] := by
  rw [finish, Text.lines, trimEnd_unlines_endedLines (cut_ne_nil _ _)]
  rfl

/-! ## Parts of a document -/

/-- The lines that tell a reader where a document comes from. -/
def notice : String :=
  "// Models below are generated from TypeScript declarations by prisma-typegen.\n" ++
  "// Edits below this banner are overwritten on the next run; the blocks above are kept."

/-- What comments start with. -/
def commentMark : String := "// "

/-- The lines of the notice are comments, and none of them tells a time. -/
theorem isComment_of_mem_notice {line : List Char}
    (h : line ∈ cut (· == '\n') (trimLines notice.toList)) :
    commentMark.toList <+: line ∧ isTimeLine line = false := by
  -- The kernel takes long to decode a string, so its characters are made explicit first.
  have text : notice.toList = _ ++ _ := String.toList_append.trans
    (congrArg₂ (· ++ ·) String.toList_ofList String.toList_ofList)
  have comments : ∀ line ∈ cut (· == '\n') (trimLines notice.toList),
      commentMark.toList <+: line ∧ isTimeLine line = false := by
    rw [text]
    decide +kernel
  exact comments line h

theorem isComment_of_isTimeLine {line : List Char} (h : isTimeLine line = true) :
    commentMark.toList <+: line := by
  have mark : commentMark.toList <+: timePrefix.toList := by decide +kernel
  exact mark.trans (List.isPrefixOf_iff_prefix.1 h)

/-- The line with the time. -/
def timeLine (time : Timestamp) : List Char := timePrefix.toList ++ time.render.toList

theorem isTimeLine_timeLine (time : Timestamp) : isTimeLine (timeLine time) = true :=
  List.isPrefixOf_iff_prefix.2 (List.prefix_append _ _)

/-- The blocks of the models before their white space is brought into normal form. -/
def body (r : Registry) (includeDocs : Bool) : List Char :=
  (r.blocks includeDocs).flatMap fun b => '\n' :: b.render.toList ++ ['\n']

/-- What stands behind the line with the time. -/
def modelText (r : Registry) (includeDocs : Bool) : List Char :=
  let trimmed := trimEnd (trimLines (body r includeDocs))
  if trimmed = [] then [] else trimmed ++ ['\n']

theorem banner_eq (time : Timestamp) :
    (banner time).toList = notice.toList ++ '\n' :: timeLine time := by
  have ended :
      "// Models below are generated from TypeScript declarations by prisma-typegen.\n" ++
      "// Edits below this banner are overwritten on the next run; the blocks above are kept.\n" =
        notice ++ "\n" := by
    decide +kernel
  have feed : banner time = notice ++ "\n" ++ timePrefix ++ time.render :=
    congrArg (· ++ timePrefix ++ time.render) ended
  simp [feed, timeLine]

theorem isLine_padded (width n : Nat) : IsLine (Timestamp.padded width n).toList := by
  unfold IsLine Timestamp.padded
  rw [String.toList_ofList, List.mem_append, not_or]
  refine ⟨fun h => ?_, fun h => ?_⟩
  · exact absurd (List.eq_of_mem_replicate h) (by decide)
  · exact absurd (Nat.isDigit_of_mem_toDigits (by decide) (by decide) h) (by decide)

theorem isLine_yearText (year : Int) : IsLine (Timestamp.yearText year).toList := by
  have line := isLine_padded 4 year.natAbs
  unfold Timestamp.yearText
  unfold IsLine at line ⊢
  split
  · simp [line]
  · split
    · simp [line]
    · exact line

/-- The text of a moment is one line. -/
theorem isLine_render (time : Timestamp) : IsLine time.render.toList := by
  have year := isLine_yearText (Timestamp.civil (time.seconds.fdiv 86400)).1
  have padded : ∀ n : Nat, '\n' ∉ (Timestamp.padded 2 n).toList := isLine_padded 2
  unfold IsLine at year ⊢
  simp [Timestamp.render, year, padded]

theorem isLine_timeLine (time : Timestamp) : IsLine (timeLine time) :=
  IsLine.append (by decide) (isLine_render time)

/-- The text of a moment ends in a letter. -/
theorem exists_timeLine_eq (time : Timestamp) : ∃ front, timeLine time = front ++ ['Z'] := by
  have ends : ∃ front, time.render = front ++ "Z" := by
    unfold Timestamp.render
    exact ⟨_, rfl⟩
  obtain ⟨front, h⟩ := ends
  exact ⟨timePrefix.toList ++ front.toList, by simp [timeLine, h]⟩

/-- Trimming the end of a document leaves everything through the line with the time. -/
theorem trimEnd_append_timeLine (front : List Char) (time : Timestamp) (back : List Char) :
    trimEnd (front ++ (timeLine time ++ back)) = front ++ (timeLine time ++ trimEnd back) := by
  obtain ⟨start, h⟩ := exists_timeLine_eq time
  rw [h, List.append_assoc, List.append_assoc, ← List.append_assoc front,
    ← List.append_assoc front]
  exact trimEnd_append_cons (by decide) (front ++ start) back

theorem trimLines_timeLine (time : Timestamp) : trimLines (timeLine time) = timeLine time := by
  rw [trimLines_of_isLine (isLine_timeLine time)]
  simpa [trimEnd, trimEndBy] using trimEnd_append_timeLine [] time []

/-- Finishing a text of three parts whose middle part is a trimmed line with an end. -/
theorem finish_append {line : List Char} (kept : trimLines line = line)
    (ended : ∀ front back, trimEnd (front ++ (line ++ back)) = front ++ (line ++ trimEnd back))
    (a b c : List Char) :
    finish (a ++ '\n' :: '\n' :: (b ++ '\n' :: (line ++ '\n' :: c))) =
      trimLines a ++ '\n' :: '\n' :: (trimLines b ++
        '\n' :: (line ++ (trimEnd ('\n' :: trimLines c) ++ ['\n']))) := by
  have whole := ended (trimLines a ++ '\n' :: '\n' :: (trimLines b ++ ['\n']))
    ('\n' :: trimLines c)
  simp only [List.append_assoc, List.cons_append, List.nil_append] at whole
  rw [finish_eq]
  simp only [trimLines_append_feed, trimLines_feed, kept]
  rw [whole]
  simp only [List.append_assoc, List.cons_append]

/-- A document is its preamble, an empty line, the notice, the line with the time, and the
models. -/
theorem document_eq (r : Registry) (includeDocs : Bool) (preamble : String) (time : Timestamp) :
    (document r includeDocs preamble time).toList =
      trimLines (trimEnd preamble.toList) ++ '\n' :: '\n' :: (trimLines notice.toList ++
        '\n' :: (timeLine time ++ '\n' :: modelText r includeDocs)) := by
  have parts : draft r includeDocs preamble time =
      trimEnd preamble.toList ++ '\n' :: '\n' :: (notice.toList ++
        '\n' :: (timeLine time ++ '\n' :: body r includeDocs)) := by
    have assoc : ∀ a b line c : List Char,
        a ++ ['\n', '\n'] ++ (b ++ '\n' :: line) ++ ['\n'] ++ c =
          a ++ '\n' :: '\n' :: (b ++ '\n' :: (line ++ '\n' :: c)) := by simp
    have feeds : "\n\n".toList = ['\n', '\n'] := rfl
    rw [draft_eq, banner_eq, feeds, body]
    exact assoc ..
  have last : trimEnd ('\n' :: trimLines (body r includeDocs)) ++ ['\n'] =
      '\n' :: modelText r includeDocs := by
    have blank : isBlank '\n' = true := by decide
    rw [trimEnd_cons, modelText]
    by_cases h : trimEnd (trimLines (body r includeDocs)) = [] <;> simp [h, blank]
  rw [document, String.toList_ofList, parts, ← last]
  exact finish_append (trimLines_timeLine time)
    (fun front back => trimEnd_append_timeLine front time back) _ _ _

/-- Without its line with the time, a text says nothing of the time. -/
theorem untimed_append_timeLine (front : List Char) (time : Timestamp) (back : List Char) :
    untimed (front ++ '\n' :: (timeLine time ++ '\n' :: back)) =
      unlines ((((cut (· == '\n') front).map dropReturn).filter (!isTimeLine ·)) ++
        (Text.lines back).filter (!isTimeLine ·)) := by
  have dropped : isTimeLine (dropReturn (timeLine time)) = true := by
    obtain ⟨start, h⟩ := exists_timeLine_eq time
    have kept : dropReturn (timeLine time) = timeLine time := by
      simp [dropReturn, h]
    rw [kept]
    exact isTimeLine_timeLine time
  have split := lines_append_cons (front ++ '\n' :: timeLine time) back
  rw [cut_append_cons (by rfl), cut_of_isLine (isLine_timeLine time)] at split
  rw [List.append_assoc, List.cons_append] at split
  rw [untimed, split]
  simp [dropped]

/-- The line with the time between what comes before and after it. -/
theorem document_eq_append (r : Registry) (includeDocs : Bool) (preamble : String)
    (time : Timestamp) :
    document r includeDocs preamble time =
      String.ofList (trimLines (trimEnd preamble.toList) ++ '\n' :: '\n' ::
        trimLines notice.toList) ++ "\n" ++ (timePrefix ++ time.render) ++ "\n" ++
        String.ofList (modelText r includeDocs) := by
  have parts : ∀ {text a b line back : List Char} {timed : String}, line = timed.toList →
      text = a ++ '\n' :: '\n' :: (b ++ '\n' :: (line ++ '\n' :: back)) →
      String.ofList text = String.ofList (a ++ '\n' :: '\n' :: b) ++ "\n" ++ timed ++ "\n" ++
        String.ofList back := by
    rintro _ a b _ back timed rfl rfl
    rw [← String.toList_inj]
    simp
  have timed : timeLine time = (timePrefix ++ time.render).toList := by
    rw [timeLine, String.toList_append]
  rw [← String.ofList_toList (s := document r includeDocs preamble time)]
  exact parts timed (document_eq r includeDocs preamble time)

theorem untimed_document (r : Registry) (includeDocs : Bool) (preamble : String)
    (time : Timestamp) :
    untimed (document r includeDocs preamble time).toList =
      unlines ((((cut (· == '\n') (trimLines (trimEnd preamble.toList) ++
        '\n' :: '\n' :: trimLines notice.toList)).map dropReturn).filter (!isTimeLine ·)) ++
        (Text.lines (modelText r includeDocs)).filter (!isTimeLine ·)) := by
  rw [document_eq]
  generalize trimLines notice.toList = lines
  have untimed := untimed_append_timeLine (trimLines (trimEnd preamble.toList) ++
    '\n' :: '\n' :: lines) time (modelText r includeDocs)
  generalize timeLine time = line at untimed ⊢
  rwa [List.append_assoc, List.cons_append, List.cons_append] at untimed

/-- Documents with the same trimmed preamble differ in the line with the time and nowhere else. -/
theorem fingerprint_document {preamble preamble' : String}
    (h : trimLines (trimEnd preamble.toList) = trimLines (trimEnd preamble'.toList))
    (r : Registry) (includeDocs : Bool) (time time' : Timestamp) :
    fingerprint (document r includeDocs preamble time) =
      fingerprint (document r includeDocs preamble' time') := by
  rw [fingerprint, fingerprint, untimedOf, untimedOf, untimed_document, untimed_document, h]

end ModelSchema.Schema
