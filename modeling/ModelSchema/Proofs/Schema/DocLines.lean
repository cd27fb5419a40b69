import ModelSchema.Proofs.Schema.Fingerprint
import ModelSchema.Proofs.Text.Blank

/-!
# Lines of doc comments

The doc comments of models and properties are lines of a document of their own. A document with
them is one without them in which these lines stand among the others, and each of them is told by
the mark that it starts with, whatever the doc comment says.

## Main definitions

* `Interleaves` — a list made of two lists, both in order.
* `Model.commentLines` — the lines that the doc comments of a model and its properties give.
* `Schema.isDocLine`, `Schema.withoutDocLines` — lines of doc comments, and a text without them.

## Main statements

* `Model.interleaves_lines_block` — the lines of a block with docs and without.
* `Schema.lines_modelText_eq_flatMap` — the lines of the models are those of their blocks.
* `Schema.interleaves_lines_document` — the lines of a document with docs and without.
-/

namespace ModelSchema

open Text

/-! ## Interleaved lists -/

/-- The third list is made of the first two, both in order. -/
inductive Interleaves {α : Type} : List α → List α → List α → Prop where
  | nil : Interleaves [] [] []
  | left {xs ys zs : List α} (x : α) : Interleaves xs ys zs → Interleaves (x :: xs) ys (x :: zs)
  | right {xs ys zs : List α} (y : α) : Interleaves xs ys zs → Interleaves xs (y :: ys) (y :: zs)

namespace Interleaves

variable {α β : Type} {xs ys zs xs' ys' zs' : List α}

theorem nil_left (ys : List α) : Interleaves [] ys ys := by
  induction ys with
  | nil => exact .nil
  | cons y ys ih => exact .right y ih

theorem nil_right (xs : List α) : Interleaves xs [] xs := by
  induction xs with
  | nil => exact .nil
  | cons x xs ih => exact .left x ih

theorem append (h : Interleaves xs ys zs) (h' : Interleaves xs' ys' zs') :
    Interleaves (xs ++ xs') (ys ++ ys') (zs ++ zs') := by
  induction h with
  | nil => exact h'
  | left x _ ih => exact .left x ih
  | right y _ ih => exact .right y ih

/-- Lists that interleave still do when every entry is replaced by some. -/
theorem flatMap (h : Interleaves xs ys zs) (f : α → List β) :
    Interleaves (xs.flatMap f) (ys.flatMap f) (zs.flatMap f) := by
  induction h with
  | nil => exact .nil
  | left x _ ih => exact (nil_right (f x)).append ih
  | right y _ ih => exact (nil_left (f y)).append ih

/-- What is made of each entry of a list interleaves if it does for every entry. -/
theorem flatMap_of_forall {f g h : β → List α} {bs : List β}
    (each : ∀ b ∈ bs, Interleaves (f b) (g b) (h b)) :
    Interleaves (bs.flatMap f) (bs.flatMap g) (bs.flatMap h) := by
  induction bs with
  | nil => exact .nil
  | cons b bs ih =>
    have rest := ih fun c hc => each c (List.mem_cons_of_mem b hc)
    exact (each b List.mem_cons_self).append rest

/-- Where no entry of the first list is kept, what is kept comes from the second one. -/
theorem filter_eq (h : Interleaves xs ys zs) {p : α → Bool} (dropped : ∀ x ∈ xs, p x = false) :
    zs.filter p = ys.filter p := by
  induction h with
  | nil => rfl
  | left x _ ih =>
    rw [List.filter_cons_of_neg (by simp [dropped x List.mem_cons_self])]
    exact ih fun c hc => dropped c (List.mem_cons_of_mem x hc)
  | right y _ ih => rw [List.filter_cons, List.filter_cons, ih dropped]

end Interleaves

/-! ## Blocks with docs -/

/-- The lines that the doc comments of a model and of its properties give in its block. -/
def Model.commentLines (m : Model) : List String :=
  (docLines true m.doc).map ("/// " ++ ·) ++
    m.properties.flatMap fun p => (docLines true p.doc).map ("  /// " ++ ·)

theorem Property.interleaves_entries (p : Property) (owner : String) (r : Registry)
    (declared : List String) :
    Interleaves ((docLines true p.doc).map ("  /// " ++ ·))
      ((p.entries owner r declared false).map Entry.render)
      ((p.entries owner r declared true).map Entry.render) := by
  have docs : ((docLines true p.doc).map Entry.doc).map Entry.render =
      (docLines true p.doc).map ("  /// " ++ ·) := by
    rw [List.map_map]
    rfl
  have whole := (Interleaves.nil_right ((docLines true p.doc).map ("  /// " ++ ·))).append
    (.nil_left (((p.fields owner r declared).map Entry.field).map Entry.render))
  rw [List.append_nil, List.nil_append] at whole
  rw [entries, entries, List.map_append, List.map_append, docs]
  exact whole

/-- The block of a model with docs is the block without them among the lines of its doc
comments. -/
theorem Model.interleaves_lines_block (m : Model) (r : Registry) :
    Interleaves m.commentLines (m.block r false).lines (m.block r true).lines := by
  have doc : Interleaves ((docLines true m.doc).map ("/// " ++ ·))
      ((docLines false m.doc).map ("/// " ++ ·)) ((docLines true m.doc).map ("/// " ++ ·)) :=
    .nil_right _
  have key := Interleaves.nil_left
    ((if m.hasId then [] else [Entry.field .generatedKey]).map Entry.render)
  have entries : Interleaves
      (m.properties.flatMap fun p => (docLines true p.doc).map ("  /// " ++ ·))
      ((m.block r false).entries.map Entry.render)
      ((m.block r true).entries.map Entry.render) := by
    simp only [block, List.map_append, List.map_flatMap]
    exact key.append (Interleaves.flatMap_of_forall fun p _ => p.interleaves_entries ..)
  have front := (doc.append (.nil_left ["model " ++ m.name ++ " \x7b"])).append entries
  have whole := (front.append (.nil_left (Block.indexLines (m.block r true).indexes))).append
    (.nil_left ["\x7d"])
  simp only [List.append_nil] at whole
  exact whole

/-- What a doc comment gives are single lines. -/
theorem Model.isLine_of_mem_commentLines {m : Model} {l : String} (h : l ∈ m.commentLines) :
    IsLine l.toList := by
  have marked : ∀ {mark : String} {doc : Option String}, IsLine mark.toList →
      l ∈ (docLines true doc).map (mark ++ ·) → IsLine l.toList := by
    intro mark doc hmark h
    obtain ⟨line, hline, rfl⟩ := List.mem_map.1 h
    rw [String.toList_append]
    exact hmark.append (isLine_of_mem_docLines hline)
  rcases List.mem_append.1 h with h | h
  · exact marked (by decide) h
  · obtain ⟨p, -, h⟩ := List.mem_flatMap.1 h
    exact marked (by decide) h

namespace Schema

/-- Whether a line is one of a doc comment: the first characters that are no blanks are the mark of
one. -/
def isDocLine (line : List Char) : Bool := "///".toList.isPrefixOf (trimStart line)

/-- A text without the lines of doc comments. -/
def withoutDocLines (cs : List Char) : List Char :=
  unlines ((Text.lines cs).filter (!isDocLine ·))

/-- A text without the lines of doc comments. -/
def withoutDocLinesOf (s : String) : String := String.ofList (withoutDocLines s.toList)

/-- Whatever a doc comment says, its lines start with the mark. -/
theorem isDocLine_of_mem_commentLines {m : Model} {l : String} (h : l ∈ m.commentLines) :
    isDocLine (trimEnd l.toList) = true := by
  have marked : ∀ blanks rest : List Char, AllBlank blanks →
      isDocLine (trimEnd (blanks ++ ('/' :: '/' :: '/' :: rest))) = true := by
    intro blanks rest hblanks
    have slash : isBlank '/' = false := by decide
    rw [trimEnd_append_cons slash]
    have mark : trimEnd ('/' :: '/' :: rest) = '/' :: '/' :: trimEnd rest :=
      trimEnd_append_cons slash ['/'] rest
    rw [isDocLine, trimStart_append hblanks, mark, trimStart_cons, slash]
    rfl
  rcases List.mem_append.1 h with h | h
  · obtain ⟨line, -, rfl⟩ := List.mem_map.1 h
    simpa using marked [] (' ' :: line.toList) allBlank_nil
  · obtain ⟨p, -, h⟩ := List.mem_flatMap.1 h
    obtain ⟨line, -, rfl⟩ := List.mem_map.1 h
    simpa using marked [' ', ' '] (' ' :: line.toList) (by decide)

/-! ## Documents with docs -/

/-- The lines of a block in a document. -/
def trimmedLines (b : Block) : List (List Char) := (cut (· == '\n') b.render.toList).map trimEnd

/-- A line of a block is one in the document too, unless a name in it holds line feeds. -/
theorem trimmedLines_eq (b : Block) :
    trimmedLines b = b.lines.flatMap fun l => (cut (· == '\n') l.toList).map trimEnd := by
  rw [trimmedLines, b.cut_render, List.map_flatMap]

/-- The lines of the models before the end of the text is trimmed. -/
theorem cut_trimLines_body (r : Registry) (includeDocs : Bool) :
    cut (· == '\n') (trimLines (body r includeDocs)) =
      (r.blocks includeDocs).flatMap (fun b => [] :: trimmedLines b) ++ [[]] := by
  rw [cut_trimLines, body]
  induction r.blocks includeDocs with
  | nil => rfl
  | cons b bs ih =>
    rw [List.flatMap_cons, List.cons_append, List.cons_append, List.append_assoc,
      List.singleton_append, cut_cons_of_pos (by rfl), cut_append_cons (by rfl), List.map_cons,
      List.map_append, ih]
    simp [trimmedLines, trimEnd, trimEndBy]

/-- A block ends in its closing brace. -/
theorem exists_trimmedLines_eq (b : Block) :
    ∃ front, trimmedLines b = front ++ [['\x7d']] := by
  have brace : (cut (· == '\n') "\x7d".toList).map trimEnd = [['\x7d']] := by decide
  obtain ⟨front, lines⟩ : ∃ front, b.lines = front ++ ["\x7d"] := ⟨_, rfl⟩
  refine ⟨front.flatMap fun l => (cut (· == '\n') l.toList).map trimEnd, ?_⟩
  rw [trimmedLines_eq, lines, List.flatMap_append, List.flatMap_singleton, brace]

/-- A text whose last line is no blank with a line feed behind it is trimmed of this line feed
only. -/
theorem trimEnd_append_feed {cs : List Char} {above : List (List Char)} {c : Char}
    (pieces : cut (· == '\n') cs = above ++ [[c]] ++ [[]]) (hc : isBlank c = false) :
    trimEnd cs ++ ['\n'] = cs := by
  have text : cs = above.flatMap (· ++ ['\n']) ++ c :: ['\n'] := by
    have ended := flatMap_cut cs
    rw [pieces, List.flatMap_append, List.flatMap_append, List.flatMap_singleton,
      List.flatMap_singleton, List.nil_append] at ended
    exact (List.append_cancel_right ended).symm
  rw [text, trimEnd_append_cons hc, List.append_assoc]
  rfl

/-- The lines of the models are those of their blocks with an empty line above each block. -/
theorem lines_modelText_eq_flatMap (r : Registry) (includeDocs : Bool) :
    Text.lines (modelText r includeDocs) =
      (r.blocks includeDocs).flatMap fun b => [] :: trimmedLines b := by
  have pieces := cut_trimLines_body r includeDocs
  rcases List.eq_nil_or_concat' (r.blocks includeDocs) with none | ⟨front, last, blocks⟩
  · rw [lines_modelText, body, none]
    rfl
  · obtain ⟨above, ends⟩ : ∃ above, (r.blocks includeDocs).flatMap
        (fun b => [] :: trimmedLines b) = above ++ [['\x7d']] := by
      obtain ⟨inner, closed⟩ := exists_trimmedLines_eq last
      refine ⟨front.flatMap (fun b => [] :: trimmedLines b) ++ [] :: inner, ?_⟩
      simp [blocks, closed]
    rw [ends] at pieces ⊢
    rw [← trimEnd_append_feed pieces (by decide), cut_append_cons (by rfl)] at pieces
    have lines := List.append_cancel_right pieces
    rw [lines_modelText, if_neg, lines]
    intro none
    rw [none] at lines
    simpa [cut] using congrArg List.getLast? lines

/-- The lines of a document end with those of its models, and all others are the same with docs and
without. -/
theorem exists_lines_document (preamble : String) (time : Timestamp) :
    ∃ above, ∀ (r : Registry) (includeDocs : Bool),
      Text.lines (document r includeDocs preamble time).toList =
        above ++ Text.lines (modelText r includeDocs) := by
  have parts : ∀ {a b line back : List Char},
      Text.lines (a ++ '\n' :: '\n' :: (b ++ '\n' :: (line ++ '\n' :: back))) =
        (cut (· == '\n') (a ++ '\n' :: '\n' :: (b ++ '\n' :: line))).map dropReturn ++
          Text.lines back := by
    intro a b line back
    rw [← lines_append_cons]
    simp
  refine ⟨(cut (· == '\n') (trimLines (trimEnd preamble.toList) ++ '\n' :: '\n' ::
    (trimLines notice.toList ++ '\n' :: timeLine time))).map dropReturn, fun r includeDocs => ?_⟩
  rw [document_eq, parts]

/-- With docs, the models have their lines without them and one line more for each line of a doc
comment, every line in its place. -/
theorem interleaves_lines_modelText (r : Registry) :
    Interleaves (r.models.flatMap fun m => m.commentLines.map (trimEnd ·.toList))
      (Text.lines (modelText r false)) (Text.lines (modelText r true)) := by
  rw [lines_modelText_eq_flatMap, lines_modelText_eq_flatMap, Registry.blocks, Registry.blocks,
    List.flatMap_map, List.flatMap_map]
  refine Interleaves.flatMap_of_forall fun m _ => .right [] ?_
  rw [trimmedLines_eq, trimmedLines_eq]
  have lines := (m.interleaves_lines_block r).flatMap fun l =>
    (cut (· == '\n') l.toList).map trimEnd
  rw [List.flatMap_congr fun l hl => by
    rw [cut_of_isLine (Model.isLine_of_mem_commentLines hl), List.map_singleton]] at lines
  rwa [← List.map_eq_flatMap] at lines

/-- Docs only add lines of their own: a document with docs is the document without them in which
the lines of the doc comments stand among the others, each of these is told by its mark, and without
the lines that are told by it the two documents are the same. -/
theorem interleaves_lines_document (r : Registry) (preamble : String) (time : Timestamp) :
    Interleaves (r.models.flatMap fun m => m.commentLines.map (trimEnd ·.toList))
        (Text.lines (document r false preamble time).toList)
        (Text.lines (document r true preamble time).toList) ∧
      (∀ m ∈ r.models, ∀ l ∈ m.commentLines, isDocLine (trimEnd l.toList) = true) ∧
      withoutDocLinesOf (document r true preamble time) =
        withoutDocLinesOf (document r false preamble time) := by
  obtain ⟨above, lines⟩ := exists_lines_document preamble time
  have comments : ∀ line ∈ r.models.flatMap fun m => m.commentLines.map (trimEnd ·.toList),
      (!isDocLine line) = false := by
    intro line hline
    obtain ⟨m, -, hline⟩ := List.mem_flatMap.1 hline
    obtain ⟨l, hl, rfl⟩ := List.mem_map.1 hline
    simp [isDocLine_of_mem_commentLines hl]
  have whole : Interleaves (r.models.flatMap fun m => m.commentLines.map (trimEnd ·.toList))
      (Text.lines (document r false preamble time).toList)
      (Text.lines (document r true preamble time).toList) := by
    rw [lines, lines]
    exact (Interleaves.nil_left above).append (interleaves_lines_modelText r)
  refine ⟨whole, fun m _ l hl => isDocLine_of_mem_commentLines hl, ?_⟩
  rw [withoutDocLinesOf, withoutDocLinesOf, withoutDocLines, withoutDocLines,
    whole.filter_eq comments]

end Schema

end ModelSchema
