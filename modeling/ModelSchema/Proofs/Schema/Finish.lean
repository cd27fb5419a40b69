import Mathlib.Logic.Relation
import ModelSchema.Proofs.Schema.Document

/-!
# The normal form of white space

A finished text is its lines without the blanks at their ends and without the empty ones at the end
of the text, put together again with one line feed behind each. Texts have the same finished form
just when one comes from the other by changes of white space at the ends of lines and of the text.

## Main definitions

* `Schema.keptLines` — the lines that finishing keeps.
* `Schema.Respaced`, `Schema.SameText` — one change of white space, and any number of them.

## Main statements

* `Schema.finish_eq_unlines` — a finished text is put together from the lines that are kept.
* `Schema.finish_eq_finish_iff` — when texts have the same finished form.
* `Schema.finish_isNormalForm` — what finished texts look like, and which texts are told apart.
-/

namespace ModelSchema.Schema

open Text

variable {a b cs : List Char}

/-! ## The lines that are kept -/

/-- The lines of a text without the blanks at their ends, up to the last that is not empty. -/
def keptLines (cs : List Char) : List (List Char) :=
  ((Text.lines cs).map trimEnd).rdropWhile List.isEmpty

theorem exists_of_mem_keptLines {line : List Char} (h : line ∈ keptLines cs) :
    ∃ whole ∈ Text.lines cs, trimEnd whole = line :=
  List.mem_map.1 ((List.rdropWhile_prefix _ _).subset h)

theorem trimEnd_of_mem_keptLines {line : List Char} (h : line ∈ keptLines cs) :
    trimEnd line = line := by
  obtain ⟨whole, -, rfl⟩ := exists_of_mem_keptLines h
  exact trimEnd_trimEnd whole

theorem isLine_of_mem_keptLines {line : List Char} (h : line ∈ keptLines cs) : IsLine line := by
  obtain ⟨whole, mem, rfl⟩ := exists_of_mem_keptLines h
  exact fun feed => isLine_of_mem_lines mem ((trimEnd_isPrefix whole).subset feed)

/-- A finished text is put together from the lines that are kept. -/
theorem finish_eq_unlines (cs : List Char) : finish cs = unlines (keptLines cs) ++ ['\n'] := by
  rw [finish, trimEnd_unlines, keptLines]
  intro l hl
  obtain ⟨whole, -, rfl⟩ := List.mem_map.1 hl
  exact trimEnd_trimEnd whole

/-! ## Finished texts -/

theorem finish_of_allBlank (h : AllBlank cs) : finish cs = ['\n'] := by
  rw [finish_eq, trimEnd_trimLines_eq_nil_iff.2 (trimEnd_eq_nil_iff.2 h), List.nil_append]

theorem trimEnd_trimLines_ne_nil (h : ¬ AllBlank cs) : trimEnd (trimLines cs) ≠ [] :=
  fun empty => h (trimEnd_eq_nil_iff.1 (trimEnd_trimLines_eq_nil_iff.1 empty))

/-- A finished text that is not blank ends in one line feed with no blank before it. -/
theorem exists_finish_eq (h : ¬ AllBlank cs) :
    ∃ front c, finish cs = front ++ [c, '\n'] ∧ isBlank c = false := by
  obtain ⟨front, c, same, other⟩ := exists_trimEnd_eq (trimEnd_trimLines_ne_nil h)
  exact ⟨front, c, by rw [finish_eq, same, List.append_assoc, List.singleton_append], other⟩

theorem keptLines_ne_nil (h : ¬ AllBlank cs) : keptLines cs ≠ [] := by
  intro none
  have whole := (finish_eq cs).symm.trans (finish_eq_unlines cs)
  rw [none] at whole
  exact trimEnd_trimLines_ne_nil h (List.append_cancel_right whole)

/-- The lines of a finished text are those that are kept. -/
theorem lines_finish (h : ¬ AllBlank cs) : Text.lines (finish cs) = keptLines cs := by
  have returns : (keptLines cs).map dropReturn = keptLines cs := by
    refine (List.map_congr_left fun line mem => ?_).trans (List.map_id _)
    rw [← trimEnd_of_mem_keptLines mem, dropReturn_trimEnd, id]
  rw [finish_eq_unlines, lines_append_cons,
    cut_unlines (keptLines_ne_nil h) fun line => isLine_of_mem_keptLines, returns]
  exact List.append_nil _

theorem trimEnd_of_mem_lines_finish {line : List Char} (h : line ∈ Text.lines (finish cs)) :
    trimEnd line = line := by
  by_cases blank : AllBlank cs
  · rw [finish_of_allBlank blank] at h
    obtain rfl : line = [] := List.mem_singleton.1 h
    rfl
  · rw [lines_finish blank] at h
    exact trimEnd_of_mem_keptLines h

/-! ## Changes of white space -/

/-- A change of the white space that ends a line or the text. -/
inductive Respaced : List Char → List Char → Prop where
  /-- Blanks at the end of a line. -/
  | lineBlanks (front : List Char) {blanks back : List Char} (blank : AllBlank blanks)
      (line : IsLine blanks) (ends : endsLine back = true) :
      Respaced (front ++ back) (front ++ (blanks ++ back))
  /-- A line feed with a carriage return before it, or without. -/
  | lineEnd (front back : List Char) :
      Respaced (front ++ '\n' :: back) (front ++ '\r' :: '\n' :: back)
  /-- Blank lines at the end of the text. -/
  | blankLines (front : List Char) {blanks : List Char} (blank : AllBlank blanks) :
      Respaced front (front ++ blanks)

/-- The texts come from each other by changes of the white space that ends lines and texts. -/
def SameText : List Char → List Char → Prop := Relation.EqvGen Respaced

theorem Respaced.cons (c : Char) (h : Respaced a b) : Respaced (c :: a) (c :: b) := by
  cases h with
  | lineBlanks front blank line ends => exact lineBlanks (c :: front) blank line ends
  | lineEnd front back => exact lineEnd (c :: front) back
  | blankLines _ blank => exact blankLines (c :: a) blank

theorem SameText.cons (c : Char) (h : SameText a b) : SameText (c :: a) (c :: b) := by
  induction h with
  | rel _ _ step => exact .rel _ _ (step.cons c)
  | refl _ => exact .refl _
  | symm _ _ _ ih => exact .symm _ _ ih
  | trans _ _ _ _ _ left right => exact .trans _ _ _ left right

theorem Respaced.finish_eq (h : Respaced a b) : finish a = finish b := by
  rw [Schema.finish_eq, Schema.finish_eq]
  cases h with
  | lineBlanks front blank line ends =>
    rw [trimLines_append_congr front (trimLines_blanks_append blank line ends)]
  | lineEnd front back =>
    have carriage : trimLines ('\r' :: '\n' :: back) = trimLines ('\n' :: back) :=
      trimLines_blanks_append (l := ['\r']) (by decide) (by decide) rfl
    rw [trimLines_append_congr front carriage]
  | blankLines _ blank =>
    rw [← trimLines_trimEnd, ← trimLines_trimEnd, trimEnd_append blank]

theorem SameText.finish_eq (h : SameText a b) : finish a = finish b := by
  induction h with
  | rel _ _ step => exact step.finish_eq
  | refl _ => rfl
  | symm _ _ _ ih => exact ih.symm
  | trans _ _ _ _ _ left right => exact left.trans right

theorem sameText_trimLines (cs : List Char) : SameText (trimLines cs) cs := by
  induction cs with
  | nil => exact .refl _
  | cons c cs ih =>
    rw [trimLines_cons]
    split
    · rename_i dropped
      have line : IsLine [c] := fun feed => dropped.1 (List.mem_singleton.1 feed).symm
      have blank : AllBlank [c] := List.forall_mem_singleton.2 dropped.2.1
      exact .trans _ _ _ (.rel _ _ (.lineBlanks [] blank line dropped.2.2)) (ih.cons c)
    · exact ih.cons c

/-- A text becomes its finished form by changes of the white space that ends lines and texts. -/
theorem sameText_finish (cs : List Char) : SameText (finish cs) cs := by
  obtain ⟨blanks, blank, same⟩ := exists_eq_append_trimEnd (trimLines cs)
  have ended : SameText (trimEnd (trimLines cs)) (finish cs) := by
    rw [finish_eq]
    exact .rel _ _ (.blankLines _ (by decide))
  have trimmed : SameText (trimEnd (trimLines cs)) (trimLines cs) := by
    conv => arg 2; rw [same]
    exact .rel _ _ (.blankLines _ blank)
  exact .trans _ _ _ (.trans _ _ _ (.symm _ _ ended) trimmed) (sameText_trimLines cs)

/-- Texts have the same finished form if they differ in the white space that ends lines and texts,
and only then. -/
theorem finish_eq_finish_iff : finish a = finish b ↔ SameText a b := by
  refine ⟨fun same => ?_, SameText.finish_eq⟩
  have left := sameText_finish a
  rw [same] at left
  exact .trans _ _ _ (.symm _ _ left) (sameText_finish b)

theorem finish_finish (cs : List Char) : finish (finish cs) = finish cs :=
  (sameText_finish cs).finish_eq

/-- A blank text is finished as a line feed. Another ends with a single line feed behind a character
that is no blank, and its lines are those that are kept. No line of a finished text ends with a
blank, finishing is idempotent, and it forgets the white space that ends lines and texts and
nothing else. -/
theorem finish_isNormalForm (cs : List Char) :
    (AllBlank cs → finish cs = ['\n']) ∧
      (¬ AllBlank cs →
        (∃ front c, finish cs = front ++ [c, '\n'] ∧ isBlank c = false) ∧
          Text.lines (finish cs) = keptLines cs) ∧
      (∀ line ∈ Text.lines (finish cs), trimEnd line = line) ∧
      finish (finish cs) = finish cs ∧
      ∀ other, finish cs = finish other ↔ SameText cs other :=
  ⟨finish_of_allBlank, fun h => ⟨exists_finish_eq h, lines_finish h⟩,
    fun _ => trimEnd_of_mem_lines_finish, finish_finish cs, fun _ => finish_eq_finish_iff⟩

theorem finish_isNormalForm_twoLines :
    ¬ AllBlank "a\t \r\n\r\n b\r\n \n".toList ∧
      Text.lines (finish "a\t \r\n\r\n b\r\n \n".toList) = ["a".toList, [], " b".toList] ∧
      SameText "a\t \r\n\r\n b\r\n \n".toList "a\n\n b".toList := by
  have whole : ¬ AllBlank "a\t \r\n\r\n b\r\n \n".toList := by decide
  obtain ⟨-, shape, -, -, told⟩ := finish_isNormalForm "a\t \r\n\r\n b\r\n \n".toList
  refine ⟨whole, (shape whole).2.trans ?_, (told _).1 ?_⟩ <;> decide

end ModelSchema.Schema
