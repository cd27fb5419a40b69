import Mathlib.Data.List.Infix
import ModelSchema.Path
import ModelSchema.Proofs.Text.Lines

/-!
# Paths below a directory

Paths are told apart by their components, while a text rule looks at how they are written. A path
that continues another one as it is written lies below it, and it still continues it when both are
seen from a directory further up.

## Main definitions

* `Path.behind` — the segments behind the first ones that name something.
* `Path.Continues` — a path written as another one is, with more behind it.

## Main statements

* `Path.continues_of_isPrefix` — what lies below a directory and is written with its text in front
  continues it.
* `Path.Continues.startsWith` — what continues a directory lies below it.
* `Path.Continues.relativeTo?_isPrefix` — seen from above, what continues a directory has its text
  in front.
-/

namespace ModelSchema.Path

open Text

/-! ## Segments that name nothing -/

/-- Trimming goes on into the front if nothing at the back names anything. -/
theorem trimTrivialEnd_append (front back : List (List Char)) :
    trimTrivialEnd (front ++ back) =
      if trimTrivialEnd back = [] then trimTrivialEnd front else front ++ trimTrivialEnd back := by
  simp only [trimTrivialEnd, List.reverse_append, List.dropWhile_append]
  by_cases h : back.reverse.dropWhile isTrivial = [] <;> simp [h]

theorem trimTrivialEnd_eq_nil_iff {segments : List (List Char)} :
    trimTrivialEnd segments = [] ↔ ∀ s ∈ segments, isTrivial s :=
  List.rdropWhile_eq_nil_iff

theorem trimTrivialEnd_isPrefix (segments : List (List Char)) :
    trimTrivialEnd segments <+: segments :=
  List.rdropWhile_prefix _ _

/-- What is trimmed are trivial segments. -/
theorem exists_eq_trimTrivialEnd_append (segments : List (List Char)) :
    ∃ tail, segments = trimTrivialEnd segments ++ tail ∧ ∀ s ∈ tail, isTrivial s :=
  ⟨segments.rtakeWhile isTrivial, List.rdropWhile_append_rtakeWhile.symm,
    fun _ => List.mem_rtakeWhile_imp⟩

/-- The trimmed front of some segments is in front of the trimmed whole. -/
theorem trimTrivialEnd_isPrefix_trimTrivialEnd {front whole : List (List Char)}
    (h : front <+: whole) : trimTrivialEnd front <+: trimTrivialEnd whole := by
  obtain ⟨back, rfl⟩ := h
  rw [trimTrivialEnd_append]
  split
  · exact List.prefix_rfl
  · exact (trimTrivialEnd_isPrefix front).trans (List.prefix_append _ _)

/-- Trimming takes nothing away that names something. -/
theorem filter_trimTrivialEnd (segments : List (List Char)) :
    (trimTrivialEnd segments).filter (!isTrivial ·) = segments.filter (!isTrivial ·) := by
  obtain ⟨tail, whole, htail⟩ := exists_eq_trimTrivialEnd_append segments
  have nothing : tail.filter (!isTrivial ·) = [] := by
    simpa [List.filter_eq_nil_iff] using htail
  conv_rhs => rw [whole, List.filter_append, nothing, List.append_nil]

/-- The segments behind the first `n` that name something, from the next one that does. -/
def behind (n : Nat) (segments : List (List Char)) : List (List Char) :=
  (dropNamed n segments).dropWhile isTrivial

theorem behind_cons (n : Nat) (s : List Char) (segments : List (List Char)) :
    behind n (s :: segments) =
      if isTrivial s then behind n segments
      else match n with
        | 0 => s :: segments
        | n + 1 => behind n segments := by
  cases n <;> cases h : isTrivial s <;> simp [behind, dropNamed, h]

theorem behind_of_forall_isTrivial {segments : List (List Char)} (h : ∀ s ∈ segments, isTrivial s)
    (n : Nat) : behind n segments = [] := by
  induction segments with
  | nil => cases n <;> rfl
  | cons s segments ih =>
    rw [behind_cons, if_pos (h s List.mem_cons_self)]
    exact ih fun t ht => h t (List.mem_cons_of_mem s ht)

/-- Behind the same number of names, a front with a trivial tail is in front of any continuation. -/
theorem behind_append_isPrefix {tail : List (List Char)} (h : ∀ s ∈ tail, isTrivial s)
    (n : Nat) (front back : List (List Char)) :
    trimTrivialEnd (behind n (front ++ tail)) <+: trimTrivialEnd (behind n (front ++ back)) := by
  induction front generalizing n with
  | nil =>
    rw [List.nil_append, behind_of_forall_isTrivial h]
    exact List.nil_prefix
  | cons s front ih =>
    rw [List.cons_append, List.cons_append, behind_cons, behind_cons]
    split
    · exact ih n
    · cases n with
      | zero =>
        rw [← List.cons_append, ← List.cons_append, trimTrivialEnd_append,
          if_pos (trimTrivialEnd_eq_nil_iff.2 h)]
        exact trimTrivialEnd_isPrefix_trimTrivialEnd (List.prefix_append _ _)
      | succ n => exact ih n

/-- Segments that start as others do, apart from trivial ones at the end, still do so behind the
same number of names. -/
theorem behind_isPrefix_behind {front whole : List (List Char)} (h : trimTrivialEnd front <+: whole)
    (n : Nat) : trimTrivialEnd (behind n front) <+: trimTrivialEnd (behind n whole) := by
  obtain ⟨tail, hfront, htail⟩ := exists_eq_trimTrivialEnd_append front
  obtain ⟨back, rfl⟩ := h
  conv_lhs => rw [hfront]
  exact behind_append_isPrefix htail n _ back

/-! ## Paths that continue others -/

/-- Whether `p` is written as `base` is, up to segments at its end that name nothing, with more
behind it. -/
def Continues (p base : Path) : Prop :=
  p.start = base.start ∧ trimTrivialEnd base.segments <+: p.segments

instance (p base : Path) : Decidable (p.Continues base) := inferInstanceAs (Decidable (_ ∧ _))

variable {p q base : Path}

theorem startsWith_iff : p.startsWith base ↔ base.components <+: p.components :=
  List.isPrefixOf_iff_prefix

theorem startsWith_trans (h : q.startsWith p) (h' : p.startsWith base) : q.startsWith base :=
  startsWith_iff.2 ((startsWith_iff.1 h').trans (startsWith_iff.1 h))

/-- What continues a directory lies below it. -/
theorem Continues.startsWith (h : p.Continues base) : p.startsWith base := by
  rw [startsWith_iff, components, components, h.1, ← filter_trimTrivialEnd base.segments]
  exact (List.prefix_append_right_inj _).2 ((h.2.filter _).map _)

/-- What a path with that first component starts at. -/
def startOf : Component → Start
  | .root => .root
  | .current => .current
  | .parent | .name _ => .nothing

theorem start_eq_of_components {c : Component} {rest : List Component}
    (h : p.components = c :: rest) : p.start = startOf c := by
  have named : ∀ c ∈ (p.segments.filter (!isTrivial ·)).map componentOf, startOf c = .nothing := by
    intro c hc
    obtain ⟨s, -, rfl⟩ := List.mem_map.1 hc
    unfold componentOf
    split <;> rfl
  unfold components at h
  cases hstart : p.start with
  | root | current =>
    rw [hstart] at h
    rw [← (List.cons.inj h).1]
    rfl
  | nothing =>
    rw [hstart] at h
    exact (named c (by simp [Start.components] at h; simp [h])).symm

/-- What lies below a path with components starts where that path does. -/
theorem start_eq_of_startsWith (h : p.startsWith base) (hne : base.components ≠ []) :
    p.start = base.start := by
  obtain ⟨c, rest, hbase⟩ := List.exists_cons_of_ne_nil hne
  obtain ⟨more, hp⟩ := startsWith_iff.1 h
  rw [hbase, List.cons_append] at hp
  rw [start_eq_of_components hp.symm, start_eq_of_components hbase]

theorem componentOf_injective : Function.Injective componentOf := by
  intro s t h
  unfold componentOf at h
  split at h <;> split at h <;> simp_all [String.ofList_inj]

/-- A segment that names something still does with more behind it. -/
theorem isTrivial_append_eq_false {s : List Char} (h : isTrivial s = false) (more : List Char) :
    isTrivial (s ++ more) = false := by
  simp only [isTrivial, Bool.or_eq_false_iff, beq_eq_false_iff_ne] at h ⊢
  refine ⟨by simp [h.1], fun single => ?_⟩
  rcases List.append_eq_singleton_iff.1 single with ⟨hs, -⟩ | ⟨hs, -⟩
  · exact h.1 hs
  · exact h.2 hs

/-- The text of a path behind its start. -/
def textBehindStart (p : Path) : List Char :=
  if p.start = .nothing then p.text.toList else p.text.toList.drop 1

theorem segments_eq_cut (p : Path) : p.segments = cut (· == '/') p.textBehindStart := rfl

/-- What lies below a directory and is written with its text in front continues it. -/
theorem continues_of_isPrefix (h : p.startsWith base) (hne : base.components ≠ [])
    (text : base.text.toList <+: p.text.toList) : p.Continues base := by
  have start := start_eq_of_startsWith h hne
  refine ⟨start, ?_⟩
  have texts : base.textBehindStart <+: p.textBehindStart := by
    unfold textBehindStart
    rw [start]
    split
    · exact text
    · exact List.IsPrefix.drop text 1
  -- The text in front may end in the middle of a segment of the path.
  obtain ⟨more, hmore⟩ := texts
  obtain ⟨front, last, first, back, hbase, -, hp⟩ :=
    exists_cut_append (· == '/') base.textBehindStart more
  rw [← segments_eq_cut] at hbase
  rw [hmore, ← segments_eq_cut] at hp
  cases hlast : isTrivial last with
  | true =>
    have trimmed : trimTrivialEnd base.segments = trimTrivialEnd front := by
      rw [hbase, trimTrivialEnd_append,
        if_pos (trimTrivialEnd_eq_nil_iff.2 (by simp [hlast]))]
    rw [trimmed, hp]
    exact (trimTrivialEnd_isPrefix front).trans (List.prefix_append _ _)
  | false =>
    -- Both segments are the same component, so the text in front ends where the segment does.
    have names := startsWith_iff.1 h
    rw [components, components, start, hbase, hp] at names
    simp only [List.filter_append, List.map_append, List.prefix_append_right_inj,
      List.filter_cons, hlast, isTrivial_append_eq_false hlast, Bool.not_false, if_true,
      List.map_cons, List.cons_prefix_cons] at names
    have whole : last = last ++ first := componentOf_injective names.1
    have trimmed : trimTrivialEnd base.segments = front ++ [last] := by
      rw [hbase, trimTrivialEnd_append]
      simp [trimTrivialEnd, hlast]
    rw [trimmed, hp, ← whole, List.prefix_append_right_inj]
    exact List.prefix_append [last] back

/-! ## Seen from above -/

/-- A path of the first segments of another one is in front of it. -/
theorem ofSegments_isPrefix (start : Start) {front whole : List (List Char)}
    (h : front <+: whole) :
    (ofSegments start front).text.toList <+: (ofSegments start whole).text.toList := by
  simp only [ofSegments, String.toList_ofList, List.prefix_append_right_inj]
  exact joinWith_isPrefix _ h

/-- Seen from above, what continues a directory has its text in front. -/
theorem Continues.relativeTo?_isPrefix (h : p.Continues q) (below : q.startsWith base) :
    ∃ text ∈ q.relativeTo? base, ∃ longer ∈ p.relativeTo? base,
      text.text.toList <+: longer.text.toList := by
  have below' := startsWith_trans h.startsWith below
  unfold Path.relativeTo?
  simp only [below, below', Bool.not_true, Bool.false_eq_true, if_false]
  split
  · refine ⟨_, rfl, _, rfl, ?_⟩
    rw [h.1]
    apply ofSegments_isPrefix
    have twice : trimTrivialEnd (trimTrivialEnd q.segments) = trimTrivialEnd q.segments :=
      List.rdropWhile_idempotent _ _
    rw [← twice]
    exact trimTrivialEnd_isPrefix_trimTrivialEnd h.2
  · refine ⟨_, rfl, _, rfl, ?_⟩
    rw [h.1]
    exact ofSegments_isPrefix _ (behind_isPrefix_behind h.2 _)

end ModelSchema.Path
