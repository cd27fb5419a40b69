import ModelSchema.Proofs.Schema.Store

/-!
# Atomicity of storing

Storing a schema makes directories, writes the staging file and moves it into place, and each of
these steps may fail. What is left then differs from what was there in the staging file alone; if
all of them succeed the schema is under its path and the staging file is gone.

## Main definitions

* `Schema.IsStaged` — a tree with a staging file and nothing else that is new.
* `Schema.fullDisk` — faults that leave a staging file of four bytes.

## Main statements

* `Schema.frame_of_store_error` — a failure at any step touches the staging file at most.
* `Schema.store_atomic` — the three ways in which storing can end.
-/

namespace ModelSchema.Schema

open FileTree ModelSchema.Path

variable {t t' : FileTree} {p : Path} {text : String} {faults : StoreFaults} {fault : IoFault}

/-! ## Staging -/

/-- What a path leads to is not its own staging file. -/
theorem place_ne_staging {d : Location} {name : String} (leads : t.LeadsTo p d name)
    (d' : Location) : d ++ [name] ≠ d' ++ [stagingName p] := by
  obtain ⟨before, segments, -⟩ := leads.walked
  have fileName := fileName?_of_rawSegments segments leads.named.nontrivial leads.named.notParent
  intro same
  obtain ⟨-, names⟩ := List.append_inj' same rfl
  have longer : name = name ++ ".tmp" := by simpa [stagingName, fileName] using names
  have four : ".tmp".length = 4 := by decide
  have lengths := congrArg String.length longer
  rw [String.length_append] at lengths
  omega

/-- `t'` is `t` with a staging file of this content in the directory at `d`. -/
structure IsStaged (t t' : FileTree) (p : Path) (d : Location) (content : ByteArray) : Prop where
  leads : t'.LeadsTo (stagingPath p) d (stagingName p)
  stands : t'.get? (d ++ [stagingName p]) = some (.file content)
  frame : Frame (· = d ++ [stagingName p]) t t'

theorem exists_isStaged_of_write (linkFree : t.IsLinkFree) {content : ByteArray}
    (h : t.write (stagingPath p) content = .ok t') : ∃ d, IsStaged t t' p d content := by
  obtain ⟨d, leads, free, rfl⟩ :=
    exists_leadsTo_of_write_staging (linkFree.isNoLink (stagingPath p)) h
  have frame := frame_put (by simp) free content
  exact ⟨d, leads.of_keepsWays frame.ways, by rw [get?_put t (by simp), if_pos rfl], frame⟩

/-- If staging fails, it has written some bytes or nothing at all. -/
theorem write_of_stage_error {staging : Path}
    (h : stage faults t staging text = .error (fault, t')) :
    t' = t ∨ ∃ content, t.write staging content = .ok t' := by
  unfold stage at h
  split at h
  · exact .inl (Prod.mk.inj (Except.error.inj h)).2.symm
  · split at h
    · rename_i written
      obtain ⟨-, rfl⟩ := Prod.mk.inj (Except.error.inj h)
      exact .inr ⟨_, written⟩
    · exact .inl (Prod.mk.inj (Except.error.inj h)).2.symm
  · cases written : t.write staging text.toUTF8 with
    | ok written' =>
      rw [written] at h
      cases h
    | error fault' =>
      rw [written] at h
      exact .inl (Prod.mk.inj (Except.error.inj h)).2.symm

/-- If moving into place fails, the staging file is left or removed. -/
theorem removeFile_of_moveIntoPlace_error {staging : Path}
    (h : moveIntoPlace faults t staging p = .error (fault, t')) :
    t' = t ∨ t.removeFile staging = .ok t' := by
  unfold moveIntoPlace at h
  simp only at h
  split at h
  · cases h
  · split at h
    · rename_i cleaned removed
      obtain ⟨-, rfl⟩ := Prod.mk.inj (Except.error.inj h)
      exact .inr removed
    · exact .inl (Prod.mk.inj (Except.error.inj h)).2.symm

/-- A staging file can be removed without touching anything else. -/
theorem IsStaged.frame_removeFile {t₁ t₂ : FileTree} {d : Location} {content : ByteArray}
    (h : IsStaged t₁ t₂ p d content) (removed : t₂.removeFile (stagingPath p) = .ok t') :
    Frame (· = d ++ [stagingName p]) t₂ t' := by
  have erased : t' = t₂.erase (d ++ [stagingName p]) := by
    rw [removeFile, h.leads.find (by simp), h.stands] at removed
    exact (Except.ok.inj removed).symm
  exact erased ▸ frame_erase h.stands

/-! ## Failures -/

/-- A failure at any step leaves every file as it was, or every file but the one under the staging
path. -/
theorem frame_of_store_error (linkFree : t.IsLinkFree) {failure : Failure}
    (h : store t p text faults = (.error failure, t')) :
    Frame (fun _ => False) t t' ∨ ∃ d, t'.LeadsTo (stagingPath p) d (stagingName p) ∧
      Frame (· = d ++ [stagingName p]) t t' := by
  obtain ⟨fault, rfl, failed⟩ := exists_steps_of_store_error h
  have parents (touched : Location → Prop) := frame_makeParents touched faults t p
  obtain failed | ⟨t₁, made, failed⟩ := failed
  · rw [failed] at parents
    exact .inl (parents _)
  · rw [made] at parents
    have linkFree₁ : t₁.IsLinkFree := (parents fun _ => False).isLinkFree linkFree
    obtain failed | ⟨t₂, staged, failed⟩ := failed
    · obtain rfl | ⟨content, written⟩ := write_of_stage_error failed
      · exact .inl (parents _)
      · obtain ⟨d, staged⟩ := exists_isStaged_of_write linkFree₁ written
        exact .inr ⟨d, staged.leads, (parents _).trans staged.frame⟩
    · obtain ⟨d, staged⟩ := exists_isStaged_of_write linkFree₁ (write_of_stage staged)
      obtain rfl | removed := removeFile_of_moveIntoPlace_error failed
      · exact .inr ⟨d, staged.leads, (parents _).trans staged.frame⟩
      · have frame := staged.frame_removeFile removed
        exact .inr ⟨d, staged.leads.of_keepsWays frame.ways,
          (parents _).trans (staged.frame.trans frame)⟩

/-! ## Success -/

/-- A schema that was written is under its path, its staging file is gone, and every other file is
as it was. -/
theorem frame_of_store_written (linkFree : t.IsLinkFree)
    (h : store t p text faults = (.ok .written, t')) :
    ∃ above name d, t'.LeadsTo p above name ∧
      t'.get? (above ++ [name]) = some (.file text.toUTF8) ∧
      t'.LeadsTo (stagingPath p) d (stagingName p) ∧
      t'.get? (d ++ [stagingName p]) = none ∧
      Frame (fun place => place = above ++ [name] ∨ place = d ++ [stagingName p]) t t' := by
  obtain ⟨t₁, t₂, made, staged, moved⟩ := exists_steps_of_store_written h
  have parents (touched : Location → Prop) := frame_makeParents touched faults t p
  rw [made] at parents
  have linkFree₁ : t₁.IsLinkFree := (parents fun _ => False).isLinkFree linkFree
  obtain ⟨d, staged⟩ := exists_isStaged_of_write linkFree₁ (write_of_stage staged)
  have linkFree₂ : t₂.IsLinkFree := staged.frame.isLinkFree linkFree₁
  have found : t₂.find false (stagingPath p) =
      .ok (.node (d ++ [stagingName p]) (.file text.toUTF8)) := by
    rw [staged.leads.find (by simp), staged.stands]
  obtain ⟨above, name, node, leads, hnode, notDirectory, rfl⟩ :=
    exists_leadsTo_of_rename (rename_of_moveIntoPlace found moved)
  obtain rfl : FileNode.file text.toUTF8 = node := Option.some.inj (staged.stands.symm.trans hnode)
  have other : above ++ [name] ≠ d ++ [stagingName p] := place_ne_staging leads d
  rw [if_neg other]
  have erased := frame_erase staged.stands
  have free : ∀ way, IsWay way →
      (t₂.erase (d ++ [stagingName p])).get? (above ++ [name]) ≠ some way := by
    intro way hway stands
    rw [get?_erase t₂ other] at stands
    cases way with
    | file content => exact hway
    | directory => exact notDirectory stands
    | link target => exact linkFree₂ _ _ stands
  have put := frame_put (by simp) free text.toUTF8
  have ways : t₂.KeepsWays ((t₂.erase (d ++ [stagingName p])).put (above ++ [name])
      (.file text.toUTF8)) :=
    fun place node way stands => put.ways place node way (erased.ways place node way stands)
  refine ⟨above, name, d, leads.of_keepsWays ways, ?_, staged.leads.of_keepsWays ways, ?_, ?_⟩
  · rw [get?_put _ (by simp), if_pos rfl]
  · rw [get?_put _ (by simp), if_neg (Ne.symm other), get?_erase_self _ (by simp)]
  · have both : Frame (fun place => place = above ++ [name] ∨ place = d ++ [stagingName p]) t₁
        (t₂.erase (d ++ [stagingName p])) :=
      (staged.frame.trans erased).mono fun _ => .inr
    exact (parents _).trans (both.trans (put.mono fun _ => .inl))

/-! ## Atomicity -/

/-- Whichever steps fail, storing ends in one of three ways. A failure concerns the path, and all
files but the one under the staging path are as they were, that under the path among them. A schema
that was written is under its path, nothing is under the staging path, and all other files are as
they were. Otherwise the whole tree is as it was and holds a text with the same fingerprint. -/
theorem store_atomic (t : FileTree) (linkFree : t.IsLinkFree) (p : Path) (text : String)
    (faults : StoreFaults) :
    match store t p text faults with
    | (.error failure, t') =>
      (∃ fault, failure = .outputWrite p fault) ∧
      (∀ place, t'.placeOf? (stagingPath p) ≠ some place →
        t'.fileAt? place = t.fileAt? place) ∧
      ∀ content, t.readBytes p = .ok content → t'.readBytes p = .ok content
    | (.ok .written, t') =>
      t'.readText p = .ok text ∧
      t'.pathExists (stagingPath p) = false ∧
      ∀ place, t'.placeOf? p ≠ some place → t'.placeOf? (stagingPath p) ≠ some place →
        t'.fileAt? place = t.fileAt? place
    | (.ok .unchanged, t') =>
      t' = t ∧ ∃ existing, t.readText p = .ok existing ∧
        fingerprint existing = fingerprint text := by
  obtain ⟨⟨outcome, t'⟩, h⟩ : ∃ result, store t p text faults = result := ⟨_, rfl⟩
  rw [h]
  match outcome with
  | .error failure =>
    obtain ⟨fault, cause, -⟩ := exists_steps_of_store_error h
    refine ⟨⟨fault, cause⟩, ?_⟩
    obtain frame | ⟨d, leads, frame⟩ := frame_of_store_error linkFree h
    · exact ⟨fun place _ => frame.files place id,
        fun content => frame.readBytes linkFree fun _ _ _ => id⟩
    · refine ⟨fun place untouched => frame.files place ?_, fun content => ?_⟩
      · rintro rfl
        exact untouched leads.placeOf?
      · exact frame.readBytes linkFree fun _ _ own => place_ne_staging own d
  | .ok .written =>
    obtain ⟨above, name, d, leads, stands, leads', gone, frame⟩ :=
      frame_of_store_written linkFree h
    refine ⟨readText_of_leadsTo leads stands, ?_, fun place untouched untouched' => ?_⟩
    · rw [pathExists, node?, leads'.find (by simp [gone]), gone]
      rfl
    · refine frame.files place ?_
      rintro (rfl | rfl)
      · exact untouched leads.placeOf?
      · exact untouched' leads'.placeOf?
  | .ok .unchanged => exact exists_of_store_unchanged h

/-- A path in the root. -/
def rootPath : Path := ⟨"schema.prisma"⟩

/-- A tree with a schema under that path. -/
def storedTree : FileTree := ⟨[(["schema.prisma"], .file "model Member \x7b\x7d\n".toUTF8)]⟩

/-- The stored schema cannot be read as text, and there is space for four more bytes only. -/
def fullDisk : StoreFaults where
  read := some .invalidUtf8
  stage := some (4, .other "No space left on device (os error 28)")

/-- On a full disk the stored schema stays as it is. -/
theorem store_atomic_fullDisk :
    ∃ t', store storedTree rootPath "model Visit \x7b\x7d\n" fullDisk =
        (.error (.outputWrite rootPath (.other "No space left on device (os error 28)")), t') ∧
      t'.readBytes rootPath = .ok "model Member \x7b\x7d\n".toUTF8 := by
  have linkFree : storedTree.IsLinkFree := by
    intro place target link
    unfold FileTree.get? storedTree at link
    split at link
    · cases link
    · rw [List.lookup_cons] at link
      split at link <;> simp at link
  have leads : storedTree.LeadsTo rootPath [] "schema.prisma" :=
    leadsTo_of_rawSegments (by decide +kernel) (by decide +kernel) (by decide +kernel)
  have leads' : storedTree.LeadsTo (stagingPath rootPath) [] "schema.prisma.tmp" := by
    have staging : stagingPath rootPath = ⟨"schema.prisma.tmp"⟩ := by decide +kernel
    rw [staging]
    exact leadsTo_of_rawSegments (by decide +kernel) (by decide +kernel) (by decide +kernel)
  have stands : storedTree.get? ["schema.prisma"] =
      some (.file "model Member \x7b\x7d\n".toUTF8) := by
    simp [storedTree, FileTree.get?]
  have free : storedTree.get? ["schema.prisma.tmp"] = none := by
    simp [storedTree, FileTree.get?, List.lookup_cons]
  have read : storedTree.readBytes rootPath = .ok "model Member \x7b\x7d\n".toUTF8 := by
    rw [FileTree.readBytes, leads.find (by simp [stands])]
    simp [stands]
  have parents : makeParents fullDisk storedTree rootPath = .ok storedTree := by
    have above : rootPath.parent? = some ⟨""⟩ := by decide +kernel
    simp [makeParents, above]
  have staged : ∃ t', stage fullDisk storedTree (stagingPath rootPath) "model Visit \x7b\x7d\n" =
      .error (.other "No space left on device (os error 28)", t') := by
    have written : ∀ content, storedTree.write (stagingPath rootPath) content =
        .ok (storedTree.put ["schema.prisma.tmp"] (.file content)) :=
      leads'.write (by simp [free])
    simp only [stage, fullDisk, written]
    exact ⟨_, rfl⟩
  obtain ⟨t', staged⟩ := staged
  have unread : isStored fullDisk storedTree rootPath "model Visit \x7b\x7d\n" = false := rfl
  have failed : store storedTree rootPath "model Visit \x7b\x7d\n" fullDisk =
      (.error (.outputWrite rootPath (.other "No space left on device (os error 28)")), t') := by
    simp only [store, unread, parents, staged, bind, Except.bind]
    rfl
  have atomic := store_atomic storedTree linkFree rootPath "model Visit \x7b\x7d\n" fullDisk
  rw [failed] at atomic
  exact ⟨t', failed, atomic.2.2 _ read⟩

end ModelSchema.Schema
