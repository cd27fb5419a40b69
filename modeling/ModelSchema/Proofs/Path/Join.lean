import ModelSchema.Proofs.Path

/-!
# Paths put below a directory

A path that is put below a directory has the components of the directory in front of its own, and
seen from the directory it is what it was before, however the directory is written: without any
text, as the root, with points or slashes at its end.

## Main definitions

* `Path.IsSegment` — a segment that names something.
* `Path.Names` — one name or more, each below the one before.

## Main statements

* `Path.exists_segments_join` — the segments of a joined path.
* `Path.components_join` — the components of a joined path.
* `Path.relativeTo?_join` — a joined path as seen from the directory.
-/

namespace ModelSchema.Path

open Text

variable {p q : Path} {cs : List Char}

/-! ## Text behind a slash -/

theorem start_of_slash (h : p.text.toList = '/' :: cs) : p.start = .root := by
  simp [start, h]

theorem segments_of_slash (h : p.text.toList = '/' :: cs) : p.segments = cut (· == '/') cs := by
  simp [segments, start_of_slash h, h]

/-- What stands behind a slash does not reach the start of a path. -/
theorem start_of_append_slash (ne : p.text.toList ≠ [])
    (h : q.text.toList = p.text.toList ++ '/' :: cs) : q.start = p.start := by
  obtain ⟨c, text, hp⟩ := List.exists_cons_of_ne_nil ne
  rw [hp] at h
  cases text <;> simp only [start, h, hp, List.cons_append, List.nil_append] <;> grind

/-- A path falls apart at a slash that is not its start. -/
theorem segments_of_append_slash (ne : p.text.toList ≠ [])
    (h : q.text.toList = p.text.toList ++ '/' :: cs) :
    q.segments = p.segments ++ cut (· == '/') cs := by
  simp only [segments, start_of_append_slash ne h]
  split
  · rw [h, cut_append_cons (by rfl)]
  · obtain ⟨c, text, hp⟩ := List.exists_cons_of_ne_nil ne
    rw [h, hp, List.cons_append, List.drop_one, List.drop_one, List.tail_cons, List.tail_cons,
      cut_append_cons (by rfl)]

/-! ## Names -/

/-- The segment names something, and no slash stands in it. -/
def IsSegment (s : List Char) : Prop := isTrivial s = false ∧ '/' ∉ s

instance (s : List Char) : Decidable (IsSegment s) := inferInstanceAs (Decidable (_ ∧ _))

/-- A text that starts as a segment does: not with a slash, and not with a point that stands
alone. -/
def StartsNamed (cs : List Char) : Prop :=
  ∃ c rest, cs = c :: rest ∧ c ≠ '/' ∧ (c = '.' → ∃ d ds, rest = d :: ds ∧ d ≠ '/')

theorem StartsNamed.append (h : StartsNamed cs) (back : List Char) : StartsNamed (cs ++ back) := by
  obtain ⟨c, rest, rfl, slash, point⟩ := h
  refine ⟨c, rest ++ back, rfl, slash, fun hc => ?_⟩
  obtain ⟨d, ds, rfl, hd⟩ := point hc
  exact ⟨d, ds ++ back, rfl, hd⟩

theorem IsSegment.startsNamed (h : IsSegment cs) : StartsNamed cs := by
  obtain ⟨named, slash⟩ := h
  rcases cs with _ | ⟨c, _ | ⟨d, ds⟩⟩
  · cases named
  · refine ⟨c, [], rfl, by grind, ?_⟩
    rintro rfl
    cases named
  · exact ⟨c, d :: ds, rfl, by grind, fun _ => ⟨d, ds, rfl, by grind⟩⟩

/-- A path starts at nothing just when it has no text or starts as a segment does. -/
theorem start_eq_nothing_iff :
    p.start = .nothing ↔ p.text.toList = [] ∨ StartsNamed p.text.toList := by
  unfold start
  split
  · rename_i rest text
    simp [text, StartsNamed]
  · rename_i text
    simp [text, StartsNamed]
  · rename_i rest text
    simp [text, StartsNamed]
  · rename_i root single current
    refine iff_of_true rfl ?_
    rcases text : p.text.toList with _ | ⟨c, rest⟩
    · exact .inl rfl
    · refine .inr ⟨c, rest, rfl, fun slash => root rest (by rw [text, slash]), fun point => ?_⟩
      rcases rest with _ | ⟨d, ds⟩
      · exact absurd (by rw [text, point]) single
      · exact ⟨d, ds, rfl, fun slash => current ds (by rw [text, point, slash])⟩

/-- One name or more, each below the one before. -/
structure Names where
  segments : List (List Char)
  ne_nil : segments ≠ []
  named : ∀ s ∈ segments, IsSegment s

namespace Names

/-- The path of the names alone. -/
def path (n : Names) : Path := ofSegments .nothing n.segments

theorem toList_path (n : Names) : n.path.text.toList = joinWith ['/'] n.segments := by
  simp [path, ofSegments, Start.text]

theorem cut_path (n : Names) : cut (· == '/') n.path.text.toList = n.segments := by
  rw [toList_path]
  refine cut_joinWith (by rfl) n.ne_nil fun s hs c hc => ?_
  rw [beq_eq_false_iff_ne]
  rintro rfl
  exact (n.named s hs).2 hc

theorem startsNamed_path (n : Names) : StartsNamed n.path.text.toList := by
  obtain ⟨s, others, same⟩ := List.exists_cons_of_ne_nil n.ne_nil
  have first : [s] <+: n.segments := ⟨others, same.symm⟩
  obtain ⟨back, text⟩ := joinWith_isPrefix ['/'] first
  rw [toList_path, ← text, joinWith_singleton]
  exact (n.named s (by simp [same])).startsNamed.append back

@[simp] theorem start_path (n : Names) : n.path.start = .nothing :=
  start_eq_nothing_iff.2 (.inr n.startsNamed_path)

@[simp] theorem segments_path (n : Names) : n.path.segments = n.segments := by
  rw [segments_eq_cut, textBehindStart, start_path, if_pos rfl, cut_path]

end Names

/-! ## Joined paths -/

/-- Below a directory without any text the names stand alone. -/
theorem join_of_nil (h : p.text.toList = []) (n : Names) : p.join n.path.text = n.path := by
  simp [join, h]

/-- A slash stands between the directory and the names, or ends the directory. -/
theorem toList_join (h : p.text.toList ≠ []) (n : Names) :
    (p.join n.path.text).text.toList =
      if p.text.toList.getLast? = some '/' then p.text.toList ++ n.path.text.toList
      else p.text.toList ++ '/' :: n.path.text.toList := by
  obtain ⟨c, cs, same, slash, -⟩ := n.startsNamed_path
  have relative : n.path.text.toList.head? ≠ some '/' := by simpa [same] using slash
  rw [join, if_neg relative]
  split <;> simp_all

/-- A joined path starts where the directory does, and its segments are those of the directory, up
to some at the end that name nothing, with the names behind them. -/
theorem exists_segments_join (p : Path) (n : Names) :
    (p.join n.path.text).start = p.start ∧
      ∃ front tail, (∀ s ∈ tail, isTrivial s) ∧ p.segments = front ++ tail ∧
        (p.join n.path.text).segments = front ++ n.segments := by
  by_cases empty : p.text.toList = []
  · have start : p.start = .nothing := start_eq_nothing_iff.2 (.inl empty)
    have segments : p.segments = [[]] := by simp [segments, start, empty, cut]
    rw [join_of_nil empty, n.start_path, n.segments_path, start, segments]
    exact ⟨rfl, [], [[]], by decide, rfl, rfl⟩
  · have text := toList_join empty n
    generalize p.join n.path.text = joined at text ⊢
    split at text
    · -- The last segment of the directory is the empty one behind its last slash.
      rename_i slash
      obtain ⟨before, hp⟩ := List.getLast?_eq_some_iff.1 slash
      rw [hp, List.append_assoc, List.singleton_append] at text
      by_cases root : before = []
      · subst root
        rw [start_of_slash hp, start_of_slash text, segments_of_slash hp, segments_of_slash text,
          n.cut_path]
        exact ⟨rfl, [], [[]], by decide, rfl, rfl⟩
      · have same : (⟨String.ofList before⟩ : Path).text.toList = before := String.toList_ofList
        rw [← same] at hp text root
        rw [start_of_append_slash root hp, start_of_append_slash root text,
          segments_of_append_slash root hp, segments_of_append_slash root text, n.cut_path]
        exact ⟨rfl, _, [[]], by decide, rfl, rfl⟩
    · rw [start_of_append_slash empty text, segments_of_append_slash empty text, n.cut_path]
      exact ⟨rfl, _, [], by simp, by simp, rfl⟩

namespace Names

theorem filter_segments (n : Names) : n.segments.filter (!isTrivial ·) = n.segments :=
  List.filter_eq_self.2 fun s hs => by simp [(n.named s hs).1]

theorem components_path (n : Names) : n.path.components = n.segments.map componentOf := by
  simp [components, n.filter_segments, Start.components]

end Names

/-- A joined path has the components of the directory in front of those of the names. -/
theorem components_join (p : Path) (n : Names) :
    (p.join n.path.text).components = p.components ++ n.path.components := by
  obtain ⟨start, front, tail, trivial, hp, joined⟩ := exists_segments_join p n
  have none : tail.filter (!isTrivial ·) = [] := by simpa [List.filter_eq_nil_iff] using trivial
  rw [n.components_path]
  simp [components, start, joined, hp, none, n.filter_segments]

theorem startsWith_join (p : Path) (n : Names) : (p.join n.path.text).startsWith p := by
  rw [startsWith_iff, components_join]
  exact List.prefix_append _ _

theorem not_same_join (p : Path) (n : Names) : (p.join n.path.text).same p = false := by
  simp [same, components_join, n.components_path, n.ne_nil]

/-- The extension of a joined path is that of the names. -/
theorem extension?_join (p : Path) (n : Names) :
    (p.join n.path.text).extension? = n.path.extension? := by
  have ne : n.path.components ≠ [] := by simpa [n.components_path] using n.ne_nil
  rw [extension?, extension?, fileName?, fileName?, components_join,
    List.getLast?_append_of_ne_nil _ ne]

/-! ## Seen from the directory -/

/-- Only a path without any text has no components. -/
theorem components_ne_nil (h : p.text.toList ≠ []) : p.components ≠ [] := by
  cases start : p.start with
  | root | current => simp [components, start, Start.components]
  | nothing =>
    obtain ⟨c, cs, text, slash, point⟩ := (start_eq_nothing_iff.1 start).resolve_left h
    have plain : (c == '/') = false := by simpa using slash
    obtain ⟨piece, pieces, hcs, hcut⟩ := cut_cons_of_not (p := (· == '/')) plain cs
    -- A point at the front of the first segment does not stand alone.
    have named : isTrivial (c :: piece) = false := by
      by_cases hc : c = '.'
      · obtain ⟨d, ds, rfl, hd⟩ := point hc
        have plain' : (d == '/') = false := by simpa using hd
        obtain ⟨more, others, -, hds⟩ := cut_cons_of_not (p := (· == '/')) plain' ds
        rw [hds] at hcs
        obtain ⟨rfl, -⟩ := List.cons_eq_cons.1 hcs
        simp [isTrivial]
      · simp [isTrivial, hc]
    simp [components, segments, start, text, hcut, named]

/-- Behind as many names as the front has, what stands behind the front is left. -/
theorem behind_append (front back : List (List Char)) :
    behind (front.filter (!isTrivial ·)).length (front ++ back) = back.dropWhile isTrivial := by
  induction front with
  | nil => simp [behind, dropNamed]
  | cons s front ih =>
    rw [List.cons_append, behind_cons]
    cases h : isTrivial s <;> simp [h, ih]

namespace Names

theorem dropWhile_segments (n : Names) : n.segments.dropWhile isTrivial = n.segments := by
  obtain ⟨s, others, same⟩ := List.exists_cons_of_ne_nil n.ne_nil
  have named := (n.named s (by simp [same])).1
  rw [same, List.dropWhile_cons_of_neg (by simp [named])]

theorem trimTrivialEnd_segments (n : Names) : trimTrivialEnd n.segments = n.segments :=
  List.rdropWhile_eq_self_iff.2 fun ne => by simp [(n.named _ (List.getLast_mem ne)).1]

end Names

/-- Seen from the directory, a joined path is what was put below it. -/
theorem relativeTo?_join (p : Path) (n : Names) :
    (p.join n.path.text).relativeTo? p = some n.path := by
  have below := startsWith_join p n
  obtain ⟨start, front, tail, trivial, hp, joined⟩ := exists_segments_join p n
  by_cases empty : p.text.toList = []
  · obtain rfl : p = ⟨""⟩ := by
      cases p
      simpa using empty
    rw [join_of_nil empty] at below ⊢
    have none : (⟨""⟩ : Path).components.length = 0 := by decide
    rw [relativeTo?, below, none, n.start_path, n.segments_path, n.trimTrivialEnd_segments]
    rfl
  · have some := List.length_pos_iff.2 (components_ne_nil empty)
    have none : tail.filter (!isTrivial ·) = [] := by simpa [List.filter_eq_nil_iff] using trivial
    have count : p.components.length - p.start.components.length =
        (front.filter (!isTrivial ·)).length := by
      simp [components, hp, none]
    have left : (dropNamed (p.components.length - (p.join n.path.text).start.components.length)
        (p.join n.path.text).segments).dropWhile isTrivial = n.segments := by
      rw [start, count, joined]
      exact (behind_append front n.segments).trans n.dropWhile_segments
    simp only [relativeTo?, below, Bool.not_true, Bool.false_eq_true, if_false, left,
      n.trimTrivialEnd_segments]
    rw [if_neg some.ne']
    rfl

end ModelSchema.Path
