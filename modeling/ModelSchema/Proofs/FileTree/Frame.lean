import ModelSchema.Proofs.FileTree.Operations

/-!
# Files that stay as they are

Each operation on a file tree touches one place or two. All files elsewhere have their content
before and after, and every directory is still there.

## Main definitions

* `FileTree.IsLinkFree` — a tree without symbolic links.
* `FileTree.fileAt?`, `FileTree.placeOf?` — the file at a place, and the place that a path leads to.
* `FileTree.Frame` — what lies outside the touched places stays as it is.

## Main statements

* `FileTree.frame_put`, `FileTree.frame_erase`, `FileTree.frame_makeDirectories` — the frames of
  the operations.
* `FileTree.Frame.readBytes` — a file at an untouched place is read as before.
-/

namespace ModelSchema.FileTree

open ModelSchema.Path

variable {t t' t'' : FileTree} {p : Path} {place d : Location} {name : String}
  {content : ByteArray} {touched touched' : Location → Prop}

/-! ## Places of files -/

/-- No symbolic link stands in the tree. -/
def IsLinkFree (t : FileTree) : Prop := ∀ place target, t.get? place ≠ some (.link target)

theorem IsLinkFree.isNoLink (h : t.IsLinkFree) (p : Path) : t.IsNoLink p := by
  intro place target found
  unfold FileTree.find at found
  split at found
  · cases found
  · exact h place target (get?_of_walk_link found)

/-- The content of the file at a place. -/
def fileAt? (t : FileTree) (place : Location) : Option ByteArray :=
  match t.get? place with
  | some (.file content) => some content
  | _ => none

theorem fileAt?_eq_some_iff :
    t.fileAt? place = some content ↔ t.get? place = some (.file content) := by
  unfold fileAt?
  split <;> simp_all

/-- The place of the node or of the free name that a path leads to, the last link in it not
followed. -/
def placeOf? (t : FileTree) (p : Path) : Option Location :=
  match t.find false p with
  | .ok (.node place _) => some place
  | .ok (.free place _) => some place
  | .error _ => none

theorem LeadsTo.placeOf? (h : t.LeadsTo p d name) : t.placeOf? p = some (d ++ [name]) := by
  rw [FileTree.placeOf?, h.find (by simp)]
  cases t.get? (d ++ [name]) <;> rfl

/-- In a tree without links a path to a file ends in its name. -/
theorem exists_leadsTo_of_find_file (linkFree : t.IsLinkFree) {follow : Bool}
    (found : t.find follow p = .ok (.node place (.file content))) :
    ∃ d name, t.LeadsTo p d name ∧ place = d ++ [name] ∧
      t.get? place = some (.file content) := by
  have walked : ∀ links here segments,
      walk t links follow here segments = .ok (.node place (.file content)) →
        ∃ before d name, segments = before ++ [name] ∧ IsEntryName name ∧
          walk t links true here before = .ok (.node d .directory) ∧ place = d ++ [name] ∧
          t.get? place = some (.file content) := by
    intro links here segments walked
    fun_induction walk t links follow here segments with
    | case2 links here segment rest trivial ih =>
      obtain ⟨before, d, name, rfl, named, above, ends⟩ := ih walked
      exact ⟨segment :: before, d, name, rfl, named, by rwa [walk_trivial trivial], ends⟩
    | case3 links here rest _ ih =>
      obtain ⟨before, d, name, rfl, named, above, ends⟩ := ih walked
      exact ⟨".." :: before, d, name, rfl, named, by rwa [walk_parent], ends⟩
    | case7 links here segment rest nontrivial notParent fits there content' hn ends =>
      obtain ⟨rfl, same⟩ := Found.node.inj (Except.ok.inj walked)
      obtain rfl : rest = [] := by simpa using ends
      exact ⟨[], here, segment, rfl, ⟨nontrivial, notParent, fits⟩, by rw [walk], rfl, by
        rw [hn, same]⟩
    | case9 links here segment rest nontrivial notParent fits there hn ih =>
      obtain ⟨before, d, name, rfl, named, above, ends⟩ := ih walked
      exact ⟨segment :: before, d, name, rfl, named, by
        rwa [walk_directory ⟨nontrivial, notParent, fits⟩ hn], ends⟩
    | case12 here segment rest _ _ _ there target hn => exact absurd hn (linkFree there target)
    | _ => simp at walked
  unfold FileTree.find at found
  split at found
  · cases found
  · rename_i fits
    obtain ⟨before, d, name, segments, named, above, ends, stands⟩ := walked _ _ _ found
    exact ⟨d, name, ⟨fits, named, before, segments, above⟩, ends, stands⟩

/-! ## Frames -/

/-- Outside the touched places the files of `t` and `t'` are the same, every directory of `t` stands
in `t'`, and no symbolic link is new. -/
structure Frame (touched : Location → Prop) (t t' : FileTree) : Prop where
  files : ∀ place, ¬ touched place → t'.fileAt? place = t.fileAt? place
  ways : t.KeepsWays t'
  links : t.LinksWithin t'

theorem Frame.refl (touched : Location → Prop) (t : FileTree) : Frame touched t t :=
  ⟨fun _ _ => rfl, fun _ _ _ h => h, LinksWithin.refl t⟩

theorem Frame.trans (h : Frame touched t t') (h' : Frame touched t' t'') :
    Frame touched t t'' where
  files place untouched := (h'.files place untouched).trans (h.files place untouched)
  ways place node way stands := h'.ways place node way (h.ways place node way stands)
  links := h.links.trans h'.links

theorem Frame.mono (h : Frame touched t t') (wider : ∀ place, touched place → touched' place) :
    Frame touched' t t' :=
  ⟨fun place untouched => h.files place fun h => untouched (wider place h), h.ways, h.links⟩

theorem Frame.isLinkFree (h : Frame touched t t') (linkFree : t.IsLinkFree) : t'.IsLinkFree :=
  fun place target link => linkFree place target (h.links place target link)

/-- A file put where no directory and no link stands. -/
theorem frame_put (hne : place ≠ []) (free : ∀ node, IsWay node → t.get? place ≠ some node)
    (content : ByteArray) : Frame (· = place) t (t.put place (.file content)) where
  files q untouched := by rw [fileAt?, get?_put t hne, if_neg untouched, fileAt?]
  ways := keepsWays_put hne free
  links := linksWithin_put hne (by simp)

/-- A file taken away. -/
theorem frame_erase (stands : t.get? place = some (.file content)) :
    Frame (· = place) t (t.erase place) where
  files q untouched := by rw [fileAt?, get?_erase t untouched, fileAt?]
  ways := keepsWays_erase stands
  links q target link := by
    by_cases same : q = place
    · have hne : place ≠ [] := by
        rintro rfl
        simp [get?] at stands
      rw [same, get?_erase_self t hne] at link
      cases link
    · rwa [get?_erase t same] at link

/-- A new directory touches no file. -/
theorem frame_makeDirectory (h : t.makeDirectory p = .ok t') : Frame touched t t' := by
  have links := linksWithin_makeDirectory h
  unfold makeDirectory FileTree.find at h
  split at h
  · cases h
  · rename_i place asDirectory found
    split at found
    · cases found
    · obtain rfl := Except.ok.inj h
      have hne := ne_nil_of_walk_free found
      have free := get?_of_walk_free found
      refine ⟨fun q _ => ?_, keepsWays_put hne (by simp [free]), links⟩
      by_cases same : q = place
      · rw [same, fileAt?, get?_put t hne, if_pos rfl, fileAt?, free]
      · rw [fileAt?, get?_put t hne, if_neg same, fileAt?]
  · cases h

/-- Making directories touches no file, whether it succeeds or not. -/
theorem frame_makeDirectories (refuses : Path → Option IoFault) :
    Frame touched t (treeLeft (t.makeDirectories p refuses)) :=
  makeFirst_induction (Frame touched) (Frame.refl touched) (fun _ _ _ => Frame.trans)
    (fun _ _ _ => frame_makeDirectory) refuses _ t

/-- Without links a file that can be read and is not touched is read as before. -/
theorem Frame.readBytes (h : Frame touched t t') (linkFree : t.IsLinkFree)
    (untouched : ∀ d name, t.LeadsTo p d name → ¬ touched (d ++ [name]))
    (read : t.readBytes p = .ok content) : t'.readBytes p = .ok content := by
  have found : ∃ place, t.find true p = .ok (.node place (.file content)) := by
    unfold FileTree.readBytes at read
    split at read <;> simp_all
  obtain ⟨place, found⟩ := found
  obtain ⟨d, name, leads, rfl, stands⟩ := exists_leadsTo_of_find_file linkFree found
  have stands' : t'.get? (d ++ [name]) = some (.file content) := by
    rw [← fileAt?_eq_some_iff, h.files _ (untouched d name leads), fileAt?_eq_some_iff]
    exact stands
  rw [FileTree.readBytes, (leads.of_keepsWays h.ways).find (by simp [stands']), stands']

end ModelSchema.FileTree
