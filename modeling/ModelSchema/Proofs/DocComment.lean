import ModelSchema.Proofs.Text.Blank
import ModelSchema.Syntax.Doc

/-!
# The text of doc comments

The lines of the text of a doc comment stand between its delimiters, in their order, and only blanks
and stars stand around them. The one comment of which this is not true is the shortest: its
delimiters share their star, and when the first is taken away the slash of the last is left.

## Main definitions

* `Doc.blockComment` — the comment with a given text between its delimiters.
* `Doc.Holds` — lines stand in a text, with nothing but blanks and stars around them.

## Main statements

* `Text.dropAllAtFront_append`, `Text.dropAllAtEnd_append` — what is dropped.
* `Doc.holds_lines` — the cleaned lines of a text stand in it.
* `Doc.inner_blockComment` — what is left of a doc comment without its delimiters.
* `Doc.holds_clean_iff` — the text of a doc comment stands between the delimiters.
-/

namespace ModelSchema

/-! ## Dropped parts -/

namespace Text

variable {part cs : List Char}

theorem dropAllAtFront_eq_self (h : ¬ part <+: cs) : dropAllAtFront part cs = cs := by
  rw [dropAllAtFront, dif_neg]
  exact fun front => h (List.isPrefixOf_iff_prefix.1 front.2)

theorem dropAllAtFront_append (ne : part ≠ []) (cs : List Char) :
    dropAllAtFront part (part ++ cs) = dropAllAtFront part cs := by
  have front : part.isPrefixOf (part ++ cs) = true :=
    List.isPrefixOf_iff_prefix.2 (List.prefix_append part cs)
  rw [dropAllAtFront, dif_pos ⟨ne, front⟩, List.drop_left]

theorem dropAllAtEnd_eq_self (h : ¬ part <:+ cs) : dropAllAtEnd part cs = cs := by
  rw [dropAllAtEnd, dropAllAtFront_eq_self (by rwa [List.reverse_prefix]), List.reverse_reverse]

theorem dropAllAtEnd_append (ne : part ≠ []) (cs : List Char) :
    dropAllAtEnd part (cs ++ part) = dropAllAtEnd part cs := by
  rw [dropAllAtEnd, List.reverse_append, dropAllAtFront_append (by simpa using ne), dropAllAtEnd]

end Text

namespace Doc

open Text

variable {a b cs body line : List Char} {ls ms : List (List Char)}

/-! ## Lines in a text -/

/-- The characters that stand around the lines of a doc comment: blanks and stars. -/
def AllMargin (cs : List Char) : Prop := ∀ c ∈ cs, isBlank c = true ∨ c = '*'

instance (cs : List Char) : Decidable (AllMargin cs) := decidableForallMem _ cs

theorem AllMargin.append (ha : AllMargin a) (hb : AllMargin b) : AllMargin (a ++ b) := fun c hc =>
  (List.mem_append.1 hc).elim (ha c) (hb c)

theorem allMargin_of_allBlank (h : AllBlank cs) : AllMargin cs := fun c hc => .inl (h c hc)

/-- The lines stand in the text in their order, each behind the one before, and nothing but blanks
and stars stands around them. -/
inductive Holds : List Char → List (List Char) → Prop where
  | margin {gap : List Char} : AllMargin gap → Holds gap []
  | line {gap line rest : List Char} {ls : List (List Char)} :
    AllMargin gap → Holds rest ls → Holds (gap ++ (line ++ rest)) (line :: ls)

namespace Holds

theorem append_left (ha : AllMargin a) (h : Holds b ls) : Holds (a ++ b) ls := by
  cases h with
  | margin gap => exact .margin (ha.append gap)
  | line gap rest =>
    rw [← List.append_assoc]
    exact .line (ha.append gap) rest

theorem append (h : Holds a ls) (h' : Holds b ms) : Holds (a ++ b) (ls ++ ms) := by
  induction h with
  | margin gap => exact h'.append_left gap
  | line gap _ ih =>
    rw [List.append_assoc, List.append_assoc]
    exact .line gap ih

/-- A text without characters holds no line that is not empty. -/
theorem eq_nil (h : Holds [] ls) (proper : ∀ line ∈ ls, line ≠ []) : ls = [] := by
  generalize empty : ([] : List Char) = cs at h
  cases h with
  | margin => rfl
  | line =>
    obtain ⟨-, line⟩ := List.append_eq_nil_iff.1 empty.symm
    exact absurd (List.append_eq_nil_iff.1 line).1 (proper _ List.mem_cons_self)

end Holds

/-! ## Cleaned lines -/

/-- Cleaning a line takes blanks and stars away from its ends. -/
theorem exists_eq_append_cleanLine (line : List Char) :
    ∃ front back, AllMargin front ∧ AllMargin back ∧ line = front ++ (cleanLine line ++ back) := by
  obtain ⟨l, r, hl, hr, outer⟩ := exists_eq_append_trim line
  obtain ⟨stars, hstars, middle⟩ : ∃ stars, AllMargin stars ∧
      trim line = stars ++ trimStartBy (· == '*') (trim line) :=
    ⟨(trim line).takeWhile (· == '*'), fun c hc => .inr (by simpa using List.mem_takeWhile_imp hc),
      List.takeWhile_append_dropWhile.symm⟩
  obtain ⟨l', r', hl', hr', inner⟩ := exists_eq_append_trim (trimStartBy (· == '*') (trim line))
  refine ⟨l ++ (stars ++ l'), r' ++ r,
    (allMargin_of_allBlank hl).append (hstars.append (allMargin_of_allBlank hl')),
    (allMargin_of_allBlank hr').append (allMargin_of_allBlank hr), ?_⟩
  calc line = l ++ (trim line ++ r) := outer
    _ = l ++ (stars ++ trimStartBy (· == '*') (trim line) ++ r) :=
      congrArg (fun text => l ++ (text ++ r)) middle
    _ = l ++ (stars ++ (l' ++ (cleanLine line ++ r')) ++ r) :=
      congrArg (fun text => l ++ (stars ++ text ++ r)) inner
    _ = l ++ (stars ++ l') ++ (cleanLine line ++ (r' ++ r)) := by simp

/-- The cleaned line, unless nothing is left of it. -/
theorem holds_cleanLine (line : List Char) : Holds line ([cleanLine line].filter (!·.isEmpty)) := by
  obtain ⟨front, back, hfront, hback, same⟩ := exists_eq_append_cleanLine line
  cases h : cleanLine line with
  | nil =>
    rw [h] at same
    rw [same]
    exact .margin (hfront.append hback)
  | cons c cs =>
    rw [h] at same
    rw [same]
    exact .line hfront (.margin hback)

/-- The cleaned lines of a text stand in it. -/
theorem holds_lines (cs : List Char) :
    Holds cs (((lines cs).map cleanLine).filter (!·.isEmpty)) := by
  have feed : AllMargin ['\n'] := by decide
  -- A carriage return before a line feed is a blank.
  have ended : ∀ piece, Holds piece ([cleanLine (dropReturn piece)].filter (!·.isEmpty)) := by
    intro piece
    obtain ⟨back, hback, same⟩ := exists_eq_append_dropReturn piece
    have blanks : Holds back [] := .margin (allMargin_of_allBlank hback)
    have whole := (holds_cleanLine (dropReturn piece)).append blanks
    rwa [List.append_nil, ← same] at whole
  have pieces : ∀ ps : List (List Char), ps ≠ [] →
      Holds (unlines ps) (((endedLines ps).map cleanLine).filter (!·.isEmpty)) := by
    intro ps ne
    fun_induction endedLines ps with
    | case1 => exact absurd rfl ne
    | case2 last empty =>
      obtain rfl := List.isEmpty_iff.1 empty
      exact .margin (by decide)
    | case3 last => simpa [unlines] using holds_cleanLine last
    | case4 piece rest more ih =>
      have others : rest ≠ [] := fun h => more h
      have whole := (ended piece).append ((ih others).append_left feed)
      rw [← List.filter_append] at whole
      rw [unlines, joinWith_cons _ _ others, List.append_assoc]
      exact whole
  have whole := pieces _ (cut_ne_nil (· == '\n') cs)
  rwa [unlines_cut] at whole

theorem isLine_cleanLine (h : IsLine line) : IsLine (cleanLine line) := by
  obtain ⟨front, back, -, -, same⟩ := exists_eq_append_cleanLine line
  intro feed
  exact h (by rw [same]; simp [feed])

theorem trim_cleanLine (line : List Char) : trim (cleanLine line) = cleanLine line :=
  trim_trim _

/-! ## Doc comments -/

/-- The lines of a doc comment's text are not empty, and no blanks stand around them. -/
theorem proper_of_mem_cleanLines {comment : List Char} (h : line ∈ cleanLines comment) :
    IsLine line ∧ line ≠ [] ∧ trim line = line := by
  obtain ⟨mem, ne⟩ := List.mem_filter.1 h
  obtain ⟨whole, hwhole, rfl⟩ := List.mem_map.1 mem
  exact ⟨isLine_cleanLine (isLine_of_mem_lines hwhole), by simpa using ne, trim_cleanLine whole⟩

/-- The text of a doc comment has the lines that it was put together from. -/
theorem lines_clean (comment : List Char) : lines (clean comment) = cleanLines comment := by
  refine lines_unlines fun line h => ?_
  obtain ⟨isLine, ne, trimmed⟩ := proper_of_mem_cleanLines h
  refine ⟨isLine, ne, ?_⟩
  rw [← trimmed]
  exact dropReturn_trimEnd (trimStart line)

/-- The comment with that text between its delimiters. -/
def blockComment (body : List Char) : List Char := "/*".toList ++ (body ++ "*/".toList)

/-- A doc comment with a text has a star in front of it. -/
theorem exists_body_eq (doc : isDoc (blockComment body)) (ne : body ≠ []) :
    ∃ inner, body = '*' :: inner := by
  obtain ⟨c, inner, rfl⟩ := List.exists_cons_of_ne_nil ne
  have front : "/**".toList <+: blockComment (c :: inner) := List.isPrefixOf_iff_prefix.1 doc
  have star : '*' = c := by
    simpa [blockComment, List.cons_prefix_cons] using front
  exact ⟨inner, by rw [star]⟩

/-- Without its delimiters a doc comment is its text without the star in front. -/
theorem inner_blockComment {inner : List Char} (closed : ¬ "*/".toList <:+: '*' :: inner) :
    dropAllAtEnd "*/".toList (dropAllAtFront "/**".toList (blockComment ('*' :: inner))) =
      inner := by
  have front : ¬ "/**".toList <+: inner ++ "*/".toList := by
    rcases inner with _ | ⟨c, inner⟩
    · decide
    · intro h
      obtain ⟨slash, -⟩ : '/' = c ∧ _ := List.cons_prefix_cons.1 h
      exact closed ⟨[], inner, by rw [← slash]; rfl⟩
  have back : ¬ "*/".toList <:+ inner := fun h =>
    closed (h.isInfix.trans (List.suffix_cons '*' inner).isInfix)
  have parts : blockComment ('*' :: inner) = "/**".toList ++ (inner ++ "*/".toList) := rfl
  rw [parts, dropAllAtFront_append (by decide), dropAllAtFront_eq_self front,
    dropAllAtEnd_append (by decide), dropAllAtEnd_eq_self back]

/-- The text of a doc comment. -/
theorem holds_cleanLines {inner : List Char} (closed : ¬ "*/".toList <:+: '*' :: inner) :
    Holds ('*' :: inner) (cleanLines (blockComment ('*' :: inner))) := by
  rw [cleanLines, inner_blockComment closed]
  exact (holds_lines inner).append_left (by decide : AllMargin ['*'])

/-- The lines of the text of a doc comment are not empty, have no blanks around them and stand
between the delimiters of the comment, in their order and with nothing but blanks and stars around
them, unless nothing stands between the delimiters. -/
theorem holds_clean_iff (body : List Char) (closed : ¬ "*/".toList <:+: body)
    (doc : isDoc (blockComment body)) :
    ((∀ line ∈ lines (clean (blockComment body)), line ≠ [] ∧ trim line = line) ∧
      Holds body (lines (clean (blockComment body)))) ↔ body ≠ [] := by
  rw [lines_clean]
  have proper : ∀ line ∈ cleanLines (blockComment body), line ≠ [] ∧ trim line = line :=
    fun line h => (proper_of_mem_cleanLines h).2
  constructor
  · rintro ⟨-, holds⟩ rfl
    have none := holds.eq_nil fun line h => (proper line h).1
    exact absurd none (by decide +kernel)
  · intro ne
    obtain ⟨inner, rfl⟩ := exists_body_eq doc ne
    exact ⟨proper, holds_cleanLines closed⟩

/-- A comment with stars in front of its lines, some of them without a text, and line ends of both
kinds. -/
theorem holds_clean_twoLines :
    let body := "*\n * first\r\n *\n * second line\n *".toList
    ¬ "*/".toList <:+: body ∧ isDoc (blockComment body) ∧
      lines (clean (blockComment body)) = ["first".toList, "second line".toList] ∧
      Holds body ["first".toList, "second line".toList] := by
  intro body
  have closed : ¬ "*/".toList <:+: body := by decide +kernel
  have doc : isDoc (blockComment body) := by decide +kernel
  have cleaned : lines (clean (blockComment body)) = ["first".toList, "second line".toList] := by
    decide +kernel
  have holds := ((holds_clean_iff body closed doc).2 (by decide)).2
  rw [cleaned] at holds
  exact ⟨closed, doc, cleaned, holds⟩

/-- The shortest comment is taken for a doc comment, and the slash of its last delimiter for its
text. -/
theorem exists_line_not_in_body :
    ¬ "*/".toList <:+: [] ∧ isDoc (blockComment []) ∧
      ∃ line ∈ lines (clean (blockComment [])), ¬ line <:+: ([] : List Char) := by
  refine ⟨by decide, by decide, ['/'], ?_, by decide⟩
  decide +kernel

end Doc

end ModelSchema
