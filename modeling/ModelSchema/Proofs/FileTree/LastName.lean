import ModelSchema.FileTree
import ModelSchema.Proofs.Text.Lines

/-!
# The last name of a path

A name put below a path becomes the last of the segments between its slashes.

## Main statements

* `Path.exists_rawSegments_join` — a joined name is the last segment.
* `Path.slash_not_mem_fileName?` — a file name can be joined.
* `Path.fileName?_of_rawSegments` — a last name is the file name.
-/

namespace ModelSchema.Path

open Text FileTree

/-- A name without slashes is one segment. -/
theorem cut_of_slash_not_mem {cs : List Char} (h : '/' ∉ cs) : cut (· == '/') cs = [cs] := by
  apply cut_of_forall_not
  intro c hc
  rw [beq_eq_false_iff_ne]
  rintro rfl
  exact h hc

/-- A name without slashes stands alone between the slashes of the paths that end in it. -/
theorem exists_rawSegments_append {name : String} (h : '/' ∉ name.toList) (front : List Char) :
    ∃ before, rawSegments (String.ofList (front ++ '/' :: name.toList)) = before ++ [name] := by
  refine ⟨(cut (· == '/') front).map String.ofList, ?_⟩
  rw [rawSegments, String.toList_ofList, cut_append_cons (by rfl), cut_of_slash_not_mem h,
    List.map_append]
  simp

/-- A name put below a path is its last segment. -/
theorem exists_rawSegments_join (p : Path) {name : String} (h : '/' ∉ name.toList) :
    ∃ before, rawSegments (p.join name).text = before ++ [name] := by
  have alone : ∃ before, rawSegments name = before ++ [name] :=
    ⟨[], by simp [rawSegments, cut_of_slash_not_mem h]⟩
  unfold join
  split
  · exact alone
  · split
    · exact alone
    · rename_i slash
      obtain ⟨front, hfront⟩ := List.getLast?_eq_some_iff.1 slash
      have text : p.text ++ name = String.ofList (front ++ '/' :: name.toList) := by
        rw [← String.toList_inj, String.toList_append, String.toList_ofList, hfront]
        simp
      rw [text]
      exact exists_rawSegments_append h front
    · have text : p.text ++ "/" ++ name = String.ofList (p.text.toList ++ '/' :: name.toList) := by
        rw [← String.toList_inj]
        simp
      rw [text]
      exact exists_rawSegments_append h p.text.toList

/-- A file name is a segment that names something. -/
theorem exists_segment_of_fileName? {p : Path} {name : String} (h : p.fileName? = some name) :
    name.toList ∈ p.segments ∧ isTrivial name.toList = false := by
  unfold fileName? at h
  split at h
  · rename_i s last
    obtain rfl := Option.some.inj h
    have mem : Component.name s ∈ p.components := List.mem_of_getLast? last
    rw [components, List.mem_append, List.mem_map] at mem
    rcases mem with mem | ⟨segment, hsegment, same⟩
    · cases hstart : p.start <;> simp [hstart, Start.components] at mem
    · unfold componentOf at same
      split at same
      · cases same
      · injection same with same
        subst same
        rw [String.toList_ofList]
        exact ⟨(List.mem_filter.1 hsegment).1, by simpa using (List.mem_filter.1 hsegment).2⟩
  · cases h

/-- A file name holds no slash. -/
theorem slash_not_mem_fileName? {p : Path} {name : String} (h : p.fileName? = some name) :
    '/' ∉ name.toList := by
  intro slash
  have apart := not_of_mem_cut (exists_segment_of_fileName? h).1 slash
  cases apart

/-- A file name is not empty. -/
theorem fileName?_ne_nil {p : Path} {name : String} (h : p.fileName? = some name) :
    name.toList ≠ [] := by
  intro empty
  have named := (exists_segment_of_fileName? h).2
  rw [empty] at named
  cases named

/-- The start of a path is no name, so the segments behind it end like all segments. -/
theorem getLast?_segments {p : Path} {name : String}
    (h : (cut (· == '/') p.text.toList).getLast? = some name.toList) (notCurrent : name ≠ ".") :
    p.segments.getLast? = some name.toList := by
  have behind : ∀ (piece rest : List Char),
      (piece :: cut (· == '/') rest).getLast? = (cut (· == '/') rest).getLast? := by
    intro piece rest
    obtain ⟨first, others, hcut⟩ := List.exists_cons_of_ne_nil (cut_ne_nil (· == '/') rest)
    rw [hcut, List.getLast?_cons_cons]
  unfold segments start
  split
  · rename_i rest hcs
    rw [hcs, cut_cons_of_pos (by rfl), behind] at h
    simpa [hcs] using h
  · rename_i hcs
    rw [hcs] at h
    have same : ['.'] = name.toList := Option.some.inj h
    exact absurd (String.toList_inj.1 same.symm) notCurrent
  · rename_i rest hcs
    have pieces : cut (· == '/') ('.' :: '/' :: rest) = ['.'] :: cut (· == '/') rest :=
      cut_append_cons (by rfl) ['.'] rest
    rw [hcs, pieces, behind] at h
    have slash : cut (· == '/') ('/' :: rest) = [] :: cut (· == '/') rest :=
      cut_cons_of_pos (by rfl) rest
    simpa [hcs, slash, behind] using h
  · simpa using h

/-- A last segment that is a name is the file name. -/
theorem fileName?_of_rawSegments {p : Path} {before : List String} {name : String}
    (h : rawSegments p.text = before ++ [name]) (nontrivial : ¬ (name = "" ∨ name = "."))
    (notParent : name ≠ "..") : p.fileName? = some name := by
  have raw : (cut (· == '/') p.text.toList).getLast? = some name.toList := by
    have mapped := congrArg List.getLast? h
    rw [rawSegments, List.getLast?_map, List.getLast?_concat] at mapped
    obtain ⟨segment, hsegment, rfl⟩ := Option.map_eq_some_iff.1 mapped
    rw [hsegment, String.toList_ofList]
  obtain ⟨front, hfront⟩ := List.getLast?_eq_some_iff.1
    (getLast?_segments raw fun h => nontrivial (.inr h))
  have named : isTrivial name.toList = false := by
    simp only [isTrivial, Bool.or_eq_false_iff, beq_eq_false_iff_ne]
    exact ⟨fun h => nontrivial (.inl (String.toList_inj.1 h)),
      fun h => nontrivial (.inr (String.toList_inj.1 h))⟩
  have component : componentOf name.toList = .name name := by
    have other : name.toList ≠ ['.', '.'] := fun h => notParent (String.toList_inj.1 h)
    rw [componentOf, if_neg other, String.ofList_toList]
  have last : p.components.getLast? = some (.name name) := by
    rw [components, hfront, List.filter_append, List.map_append, ← List.append_assoc]
    simp [named, component]
  rw [fileName?, last]

end ModelSchema.Path
