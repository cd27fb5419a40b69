import ModelSchema.Proofs.FileTree.Frame
import ModelSchema.Proofs.FileTree.LastName
import ModelSchema.Schema.Store

/-!
# Stored schemas

A schema that was written is read back as it was written. A symbolic link under the name of the
staging file is left out: the text would go where it leads, and the link itself would be moved. So
is a link to a directory under the name of the schema, which its own path may lead through.

## Main definitions

* `Schema.IsUnlinked` — no such link bears the name of a path or of its staging file.

## Main statements

* `Schema.readText_of_store_written` — the stored text.
* `Schema.store_unchanged_iff` — what it takes that nothing is written.
* `Schema.isUnlinked_of_readText` — what is read under a path tells that it is no such link.
* `Schema.exists_store` — a name where a schema can be stored.
-/

namespace ModelSchema.Schema

open FileTree ModelSchema.Path

/-- Once the directories above the path are made, it is no symbolic link to a directory, and its
staging path is no symbolic link. What can be read then tells the former
(`isUnlinked_of_readText`). -/
def IsUnlinked (t : FileTree) (p : Path) : Prop :=
  ∀ t', makeParents {} t p = .ok t' → t'.IsNoDirectoryLink p ∧ t'.IsNoLink (stagingPath p)

variable {t t' : FileTree} {p : Path} {text : String} {faults : StoreFaults}

/-- The name of the staging file. -/
def stagingName (p : Path) : String := p.fileName?.getD "" ++ ".tmp"

/-- The suffix is long enough for a name of its own. -/
theorem stagingName_ne (p : Path) {name : String} (short : name.length < 4) :
    stagingName p ≠ name := by
  rintro rfl
  have four : ".tmp".length = 4 := by decide
  rw [stagingName, String.length_append] at short
  omega

theorem stagingName_nontrivial (p : Path) : ¬ (stagingName p = "" ∨ stagingName p = ".") :=
  fun trivial => trivial.elim (stagingName_ne p (by decide)) (stagingName_ne p (by decide))

/-- The staging path ends in the name of the staging file. -/
theorem exists_rawSegments_stagingPath (p : Path) :
    ∃ before, rawSegments (stagingPath p).text = before ++ [stagingName p] := by
  have slash : '/' ∉ (stagingName p).toList := by
    rw [stagingName, String.toList_append, List.mem_append, not_or]
    refine ⟨?_, by decide⟩
    cases h : p.fileName? with
    | none => decide
    | some name => exact slash_not_mem_fileName? h
  change ∃ before, rawSegments (p.withFileName (stagingName p)).text = before ++ [stagingName p]
  unfold withFileName
  split
  · exact exists_rawSegments_join _ slash
  · exact exists_rawSegments_join _ slash

/-- Writing under the staging path puts a file at the name of the staging file. -/
theorem exists_leadsTo_of_write_staging {content : ByteArray}
    (notLink : t.IsNoLink (stagingPath p)) (h : t.write (stagingPath p) content = .ok t') :
    ∃ d, t.LeadsTo (stagingPath p) d (stagingName p) ∧
      (∀ node, IsWay node → t.get? (d ++ [stagingName p]) ≠ some node) ∧
      t' = t.put (d ++ [stagingName p]) (.file content) := by
  obtain ⟨before, segments⟩ := exists_rawSegments_stagingPath p
  exact exists_leadsTo_of_write segments (stagingName_nontrivial p)
    (stagingName_ne p (by decide)) notLink h

/-- Making the directories above a path touches no file, whether it succeeds or not. -/
theorem frame_makeParents (touched : Location → Prop) (faults : StoreFaults) (t : FileTree)
    (p : Path) : Frame touched t (treeLeft (makeParents faults t p)) := by
  unfold makeParents
  split
  · exact Frame.refl touched t
  · split
    · exact Frame.refl touched t
    · exact frame_makeDirectories _

/-! ## Steps -/

theorem exists_of_bind_eq_ok {ε α β : Type} {x : Except ε α} {f : α → Except ε β} {b : β}
    (h : x >>= f = .ok b) : ∃ a, x = .ok a ∧ f a = .ok b := by
  cases x with
  | error e => cases h
  | ok a => exact ⟨a, rfl, h⟩

theorem exists_of_bind_eq_error {ε α β : Type} {x : Except ε α} {f : α → Except ε β} {e : ε}
    (h : x >>= f = .error e) : x = .error e ∨ ∃ a, x = .ok a ∧ f a = .error e := by
  cases x with
  | error e' => exact .inl (congrArg _ (Except.error.inj h))
  | ok a => exact .inr ⟨a, rfl, h⟩

/-- A schema is written in three steps. -/
theorem exists_steps_of_store_written (h : store t p text faults = (.ok .written, t')) :
    ∃ t₁ t₂, makeParents faults t p = .ok t₁ ∧ stage faults t₁ (stagingPath p) text = .ok t₂ ∧
      moveIntoPlace faults t₂ (stagingPath p) p = .ok t' := by
  unfold store at h
  split at h
  · cases h
  · simp only at h
    split at h
    · rename_i stored run
      obtain ⟨-, rfl⟩ := Prod.mk.inj h
      obtain ⟨t₁, parents, run⟩ := exists_of_bind_eq_ok run
      obtain ⟨t₂, staged, moved⟩ := exists_of_bind_eq_ok run
      exact ⟨t₁, t₂, parents, staged, moved⟩
    · cases h

/-- Storing fails in one of these steps, after those before it. -/
theorem exists_steps_of_store_error {failure : Failure}
    (h : store t p text faults = (.error failure, t')) :
    ∃ fault, failure = .outputWrite p fault ∧
      (makeParents faults t p = .error (fault, t') ∨
        ∃ t₁, makeParents faults t p = .ok t₁ ∧
          (stage faults t₁ (stagingPath p) text = .error (fault, t') ∨
            ∃ t₂, stage faults t₁ (stagingPath p) text = .ok t₂ ∧
              moveIntoPlace faults t₂ (stagingPath p) p = .error (fault, t'))) := by
  unfold store at h
  split at h
  · cases h
  · simp only at h
    split at h
    · cases h
    · rename_i fault left run
      obtain ⟨failed, rfl⟩ := Prod.mk.inj h
      refine ⟨fault, (Except.error.inj failed).symm, ?_⟩
      refine (exists_of_bind_eq_error run).imp_right ?_
      rintro ⟨t₁, parents, run⟩
      exact ⟨t₁, parents, exists_of_bind_eq_error run⟩

/-- A schema is left as it is only where its fingerprint was found. -/
theorem exists_of_store_unchanged (h : store t p text faults = (.ok .unchanged, t')) :
    t' = t ∧ ∃ existing, t.readText p = .ok existing ∧
      fingerprint existing = fingerprint text := by
  unfold store at h
  split at h
  · rename_i stored
    obtain ⟨-, rfl⟩ := Prod.mk.inj h
    unfold isStored at stored
    split at stored
    · rename_i existing _ read
      exact ⟨rfl, existing, read, by simpa using stored⟩
    · cases stored
  · simp only at h
    split at h <;> cases h

/-- A text that was staged was written. -/
theorem write_of_stage {staging : Path} (h : stage faults t staging text = .ok t') :
    t.write staging text.toUTF8 = .ok t' := by
  unfold stage at h
  split at h
  · cases h
  · split at h <;> cases h
  · cases written : t.write staging text.toUTF8 with
    | error fault =>
      rw [written] at h
      cases h
    | ok t₁ =>
      rw [written] at h
      exact congrArg _ (Except.ok.inj h)

/-- A staging file is moved into place by being renamed. -/
theorem rename_of_moveIntoPlace {staging : Path} {place : Location} {node : FileNode}
    (found : t.find false staging = .ok (.node place node))
    (h : moveIntoPlace faults t staging p = .ok t') : t.rename place p = .ok t' := by
  simp only [moveIntoPlace, found] at h
  split at h
  · rename_i moved hmoved
    cases hfault : faults.rename with
    | some fault =>
      rw [hfault] at hmoved
      cases hmoved
    | none =>
      rw [hfault] at hmoved
      exact (show t.rename place p = .ok moved from hmoved).trans (congrArg _ (Except.ok.inj h))
  · split at h <;> cases h

/-- Moving a staged text into place gives a file with this text under the path. -/
theorem readText_of_moveIntoPlace {staging : Path} {d : Location} {name : String}
    (noDirectoryLink : t.IsNoDirectoryLink p) (leads : t.LeadsTo staging d name)
    (stands : t.get? (d ++ [name]) = some (.file text.toUTF8))
    (h : moveIntoPlace faults t staging p = .ok t') : t'.readText p = .ok text := by
  have found : t.find false staging = .ok (.node (d ++ [name]) (.file text.toUTF8)) := by
    rw [leads.find (by simp), stands]
  have renamed := rename_of_moveIntoPlace found h
  obtain ⟨above, last, moved, leads', hmoved, notDirectory, rfl⟩ :=
    exists_leadsTo_of_rename renamed
  obtain rfl : FileNode.file text.toUTF8 = moved := Option.some.inj (stands.symm.trans hmoved)
  split
  · rename_i same
    exact readText_of_leadsTo leads' (same ▸ stands)
  · rename_i other
    have deadEnd : (t.erase (d ++ [name])).IsDeadEnd above last :=
      (leads'.isDeadEnd noDirectoryLink notDirectory).of_keepsWays (keepsWays_of_erase (by simp))
    refine readText_of_leadsTo ((leads'.of_keepsWays (keepsWays_erase stands)).put deadEnd _) ?_
    rw [get?_put _ (by simp), if_pos rfl]

/-- A schema that was written is read as it was written. -/
theorem readText_of_store_written (unlinked : IsUnlinked t p)
    (h : store t p text = (.ok .written, t')) : t'.readText p = .ok text := by
  obtain ⟨t₁, t₂, parents, staged, moved⟩ := exists_steps_of_store_written h
  obtain ⟨noDirectoryLink, stagingNotLink⟩ := unlinked t₁ parents
  obtain ⟨d, leads, free, rfl⟩ :=
    exists_leadsTo_of_write_staging stagingNotLink (write_of_stage staged)
  refine readText_of_moveIntoPlace (noDirectoryLink.of_keepsWays (keepsWays_of_put (by simp) _))
    (leads.of_keepsWays (keepsWays_put (by simp) free)) ?_ moved
  rw [get?_put _ (by simp), if_pos rfl]

/-- A schema is not written where a text with its fingerprint stands. -/
theorem store_unchanged_iff :
    store t p text = (.ok .unchanged, t') ↔
      t' = t ∧ ∃ existing, t.readText p = .ok existing ∧
        fingerprint existing = fingerprint text := by
  have stored : isStored {} t p text = true ↔ ∃ existing, t.readText p = .ok existing ∧
      fingerprint existing = fingerprint text := by
    cases h : t.readText p <;> simp [isStored, h]
  rw [← stored]
  unfold store
  by_cases h : isStored {} t p text = true
  · rw [if_pos h]
    simp [h, eq_comm]
  · rw [if_neg h]
    simp only [h, and_false, iff_false, Bool.false_eq_true]
    split <;> simp

/-- Below directories that are made, a path that reads as a text or has nothing under it is no
link to a directory, so that only its staging path may be a link. -/
theorem isUnlinked_of_readText (parents : makeParents {} t p = .ok t')
    (content : t'.readText p = .error .notFound ∨ ∃ text, t'.readText p = .ok text)
    (staging : t'.IsNoLink (stagingPath p)) : IsUnlinked t p := by
  intro made again
  obtain rfl := Except.ok.inj (parents.symm.trans again)
  exact ⟨isNoDirectoryLink_of_readText content, staging⟩

/-- A schema can be stored if neither a directory nor a link stands under its name and the name of
its staging file. -/
theorem exists_store {d d' : Location} {name staged : String}
    (parents : makeParents {} t p = .ok t') (leads : t'.LeadsTo p d name)
    (free : ∀ node, IsWay node → t'.get? (d ++ [name]) ≠ some node)
    (leads' : t'.LeadsTo (stagingPath p) d' staged)
    (free' : ∀ node, IsWay node → t'.get? (d' ++ [staged]) ≠ some node) (text : String) :
    ∃ left, store t p text =
      (.ok (if isStored {} t p text then .unchanged else .written), left) := by
  let withStaging := t'.put (d' ++ [staged]) (.file text.toUTF8)
  have ways : t'.KeepsWays withStaging := keepsWays_put (by simp) free'
  have stands : withStaging.get? (d' ++ [staged]) = some (.file text.toUTF8) := by
    rw [get?_put _ (by simp), if_pos rfl]
  have found : withStaging.find false (stagingPath p) =
      .ok (.node (d' ++ [staged]) (.file text.toUTF8)) := by
    rw [(leads'.of_keepsWays ways).find (by simp), stands]
  have notDirectory : withStaging.get? (d ++ [name]) ≠ some .directory := fun directory =>
    free .directory trivial (keepsWays_of_put (by simp) _ _ _ trivial directory)
  obtain ⟨left, renamed⟩ :=
    exists_rename_of_leadsTo (leads.of_keepsWays ways) stands notDirectory
  have staged : stage {} t' (stagingPath p) text = .ok withStaging := by
    change (t'.write (stagingPath p) text.toUTF8).mapError (·, t') = _
    rw [leads'.write free']
    rfl
  have moved : moveIntoPlace {} withStaging (stagingPath p) p = .ok left := by
    simp only [moveIntoPlace, found, renamed]
  unfold store
  split
  · exact ⟨t, rfl⟩
  · exact ⟨left, by simp only [parents, staged, moved, bind, Except.bind]⟩

end ModelSchema.Schema
