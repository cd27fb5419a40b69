import ModelSchema.Proofs.FileTree.Walk

/-!
# Operations on a file tree

What writing, renaming and making directories do to the nodes of a tree: each of them changes one
place or two, and none makes a symbolic link.

## Main definitions

* `FileTree.LeadsTo` — a path leads to a name in a directory.
* `FileTree.IsNoLink`, `FileTree.IsNoDirectoryLink` — a path is no symbolic link, or none to a
  directory.
* `FileTree.LinksWithin` — one tree has no symbolic link that another one lacks.
* `FileTree.treeLeft` — what an operation leaves that may fail halfway.

## Main statements

* `FileTree.exists_leadsTo_of_write`, `FileTree.exists_leadsTo_of_rename` — what was done.
* `FileTree.LeadsTo.write`, `FileTree.exists_rename_of_leadsTo` — what can be written and renamed.
* `FileTree.LeadsTo.makeDirectories` — a directory that stands is not made again.
* `FileTree.readText_of_leadsTo` — reading a file that holds a text.
* `FileTree.isNoDirectoryLink_of_readText` — what can be read is no link to a directory.
* `FileTree.makeFirst_induction` — what making a directory with those above it does, step by step.
-/

namespace ModelSchema.FileTree

open ModelSchema.Path

variable {t t' : FileTree} {p : Path} {d : Location} {name : String}

/-! ## Names in directories -/

/-- The path leads to the name in the directory at `d`, whether anything stands there or not. -/
structure LeadsTo (t : FileTree) (p : Path) (d : Location) (name : String) : Prop where
  fits : pathFault? p.text = none
  named : IsEntryName name
  walked : ∃ before, rawSegments p.text = before ++ [name] ∧
    walk t linkLimit true [] before = .ok (.node d .directory)

/-- A path of one name leads to that name in the root. -/
theorem leadsTo_of_rawSegments (fits : pathFault? p.text = none) (named : IsEntryName name)
    (segments : rawSegments p.text = [name]) : t.LeadsTo p [] name :=
  ⟨fits, named, [], segments, by rw [walk]⟩

theorem LeadsTo.of_keepsWays (h : t.LeadsTo p d name) (ways : t.KeepsWays t') :
    t'.LeadsTo p d name := by
  obtain ⟨before, segments, walked⟩ := h.walked
  exact ⟨h.fits, h.named, before, segments, walk_of_keepsWays ways walked trivial⟩

/-- What is found is what stands at the name, unless it is a link that is followed. -/
theorem LeadsTo.find (h : t.LeadsTo p d name) {follow : Bool}
    (ends : follow = true → ∀ target, t.get? (d ++ [name]) ≠ some (.link target)) :
    t.find follow p =
      match t.get? (d ++ [name]) with
      | some node => .ok (.node (d ++ [name]) node)
      | none => .ok (.free (d ++ [name]) false) := by
  obtain ⟨before, segments, walked⟩ := h.walked
  rw [FileTree.find, h.fits]
  simp only [segments]
  exact walk_concat walked h.named ends

/-- The path itself is no symbolic link. -/
def IsNoLink (t : FileTree) (p : Path) : Prop :=
  ∀ place target, t.find false p ≠ .ok (.node place (.link target))

/-- A path becomes a link only with a new way. -/
theorem IsNoLink.of_keepsWays (h : t.IsNoLink p) (ways : t'.KeepsWays t) : t'.IsNoLink p := by
  intro place target found
  refine h place target ?_
  unfold FileTree.find at found ⊢
  split at found
  · cases found
  · exact walk_of_keepsWays ways found trivial

theorem LeadsTo.not_link (h : t.LeadsTo p d name) (notLink : t.IsNoLink p) (target : String) :
    t.get? (d ++ [name]) ≠ some (.link target) := by
  intro link
  refine notLink (d ++ [name]) target ?_
  rw [h.find (by simp), link]

theorem LeadsTo.isNoLink (h : t.LeadsTo p d name)
    (notLink : ∀ target, t.get? (d ++ [name]) ≠ some (.link target)) : t.IsNoLink p := by
  intro place target found
  rw [h.find (by simp)] at found
  cases hn : t.get? (d ++ [name]) with
  | none => simp [hn] at found
  | some node =>
    rw [hn] at found
    obtain ⟨-, rfl⟩ := Found.node.inj (Except.ok.inj found)
    exact notLink target hn

/-- If the path itself is a symbolic link, this leads to no directory. -/
def IsNoDirectoryLink (t : FileTree) (p : Path) : Prop :=
  ∀ d name target, t.LeadsTo p d name → t.get? (d ++ [name]) = some (.link target) →
    t.IsDeadEnd d name

theorem IsNoDirectoryLink.of_keepsWays (h : t.IsNoDirectoryLink p) (ways : t'.KeepsWays t) :
    t'.IsNoDirectoryLink p :=
  fun d name target leads link =>
    (h d name target (leads.of_keepsWays ways) (ways _ _ trivial link)).of_keepsWays ways

/-- No walk leads on through the name of a path where no directory stands. -/
theorem LeadsTo.isDeadEnd (h : t.LeadsTo p d name) (noDirectoryLink : t.IsNoDirectoryLink p)
    (notDirectory : t.get? (d ++ [name]) ≠ some .directory) : t.IsDeadEnd d name := by
  cases hn : t.get? (d ++ [name]) with
  | none =>
    intro links place walked
    rw [walk_none h.named hn] at walked
    cases walked
  | some node =>
    cases node with
    | file content =>
      intro links place walked
      rw [walk_file h.named hn] at walked
      cases walked
    | directory => exact absurd hn notDirectory
    | link target => exact noDirectoryLink d name target h hn

/-- One name behind a path to a directory. -/
theorem LeadsTo.below {q : Path} {last : String} (h : t.LeadsTo p d name)
    (stands : t.get? (d ++ [name]) = some .directory) (fits : pathFault? q.text = none)
    (named : IsEntryName last) (segments : rawSegments q.text = rawSegments p.text ++ [last]) :
    t.LeadsTo q (d ++ [name]) last := by
  refine ⟨fits, named, rawSegments p.text, segments, ?_⟩
  have found : t.find true p = _ := h.find fun _ => by simp [stands]
  rwa [stands, FileTree.find, h.fits] at found

/-- Whatever is put at its name, the path still leads there. -/
theorem LeadsTo.put (h : t.LeadsTo p d name) (deadEnd : t.IsDeadEnd d name) (node : FileNode) :
    (t.put (d ++ [name]) node).LeadsTo p d name := by
  obtain ⟨before, segments, walked⟩ := h.walked
  exact ⟨h.fits, h.named, before, segments, walk_put deadEnd node walked⟩

theorem exists_leadsTo_of_find {before : List String} {follow : Bool} {found : Found}
    (segments : rawSegments p.text = before ++ [name]) (nontrivial : ¬ (name = "" ∨ name = "."))
    (notParent : name ≠ "..") (h : t.find follow p = .ok found) : ∃ d, t.LeadsTo p d name := by
  unfold FileTree.find at h
  split at h
  · cases h
  · rename_i fits
    rw [segments] at h
    obtain ⟨named, d, walked⟩ := exists_walk_of_concat nontrivial notParent h
    exact ⟨d, fits, named, before, segments, walked⟩

/-! ## Reading and writing -/

/-- A path that can be read, or that nothing stands under, is no symbolic link to a directory. -/
theorem isNoDirectoryLink_of_readText
    (h : t.readText p = .error .notFound ∨ ∃ text, t.readText p = .ok text) :
    t.IsNoDirectoryLink p := by
  intro d name target leads link links place walked
  obtain ⟨before, segments, above⟩ := leads.walked
  obtain ⟨left, goesOn⟩ : ∃ left, walk t linkLimit true [] (before ++ [name]) =
      walk t left true d [name] := walk_append (List.cons_ne_nil name []) above
  have found : t.find true p = walk t left true d [name] := by
    rw [FileTree.find, leads.fits, ← goesOn, ← segments]
  have unread : t.readText p = .error .isADirectory ∨ t.readText p = .error .tooManyLinks := by
    refine (walk_links walked left).imp ?_ ?_
    · intro read
      rw [readText, readBytes, found, read]
      rfl
    · intro read
      rw [readText, readBytes, found, read]
      rfl
  obtain unread | unread := unread <;> simp [unread] at h

theorem decodeUtf8?_toUTF8 (text : String) : Text.decodeUtf8? text.toUTF8 = some text := by
  have valid : text.toUTF8.IsValidUTF8 := text.isValidUTF8
  rw [Text.decodeUtf8?, String.fromUTF8?, dif_pos valid]
  rfl

/-- A path to a file with the bytes of a text reads as that text. -/
theorem readText_of_leadsTo (h : t.LeadsTo p d name) {text : String}
    (stands : t.get? (d ++ [name]) = some (.file text.toUTF8)) : t.readText p = .ok text := by
  have found : t.find true p = .ok (.node (d ++ [name]) (.file text.toUTF8)) := by
    rw [h.find fun _ => by simp [stands], stands]
  rw [readText, readBytes, found]
  simp only [bind, Except.bind, decodeUtf8?_toUTF8]
  rfl

/-- Writing puts a file at a name that no directory and no link bears. -/
theorem exists_leadsTo_of_write {before : List String} {content : ByteArray}
    (segments : rawSegments p.text = before ++ [name]) (nontrivial : ¬ (name = "" ∨ name = "."))
    (notParent : name ≠ "..") (notLink : t.IsNoLink p) (h : t.write p content = .ok t') :
    ∃ d, t.LeadsTo p d name ∧ (∀ node, IsWay node → t.get? (d ++ [name]) ≠ some node) ∧
      t' = t.put (d ++ [name]) (.file content) := by
  unfold write at h
  have reached : ∃ found, t.find true p = .ok found := by
    cases hf : t.find true p with
    | error fault => simp [hf] at h
    | ok found => exact ⟨found, rfl⟩
  obtain ⟨found, hfound⟩ := reached
  obtain ⟨d, leads⟩ := exists_leadsTo_of_find segments nontrivial notParent hfound
  refine ⟨d, leads, ?_⟩
  rw [leads.find fun _ => leads.not_link notLink] at h
  cases hn : t.get? (d ++ [name]) with
  | none =>
    rw [hn] at h
    exact ⟨by simp, (Except.ok.inj h).symm⟩
  | some node =>
    rw [hn] at h
    cases node with
    | file old =>
      refine ⟨?_, (Except.ok.inj h).symm⟩
      rintro node way same
      obtain rfl := Option.some.inj same
      exact way
    | directory => cases h
    | link target => exact absurd hn (leads.not_link notLink target)

/-- A file can be written at a name that no directory and no link bears. -/
theorem LeadsTo.write (h : t.LeadsTo p d name)
    (free : ∀ node, IsWay node → t.get? (d ++ [name]) ≠ some node) (content : ByteArray) :
    t.write p content = .ok (t.put (d ++ [name]) (.file content)) := by
  rw [FileTree.write, h.find fun _ target => free (.link target) trivial]
  cases hn : t.get? (d ++ [name]) with
  | none => rfl
  | some node =>
    cases node with
    | file old => rfl
    | directory => exact absurd hn (free .directory trivial)
    | link target => exact absurd hn (free (.link target) trivial)

/-- A directory that stands is not made again. -/
theorem LeadsTo.makeDirectories (h : t.LeadsTo p d name)
    (stands : t.get? (d ++ [name]) = some .directory) : t.makeDirectories p = .ok t := by
  have found : ∀ follow, t.find follow p = .ok (.node (d ++ [name]) .directory) := by
    intro follow
    rw [h.find fun _ => by simp [stands], stands]
  have known : t.isDirectory p = true := by
    simp [isDirectory, node?, found]
  obtain ⟨above, first⟩ : ∃ above, selfAndAncestors p p.components.length = p :: above := by
    cases p.components.length with
    | zero => exact ⟨[], rfl⟩
    | succ n =>
      unfold selfAndAncestors
      split
      · exact ⟨_, rfl⟩
      · exact ⟨[], rfl⟩
  rw [FileTree.makeDirectories, first]
  simp [makeFirst, makeDirectory, found, known]

/-- A new file at a place where no way stood leaves all ways. -/
theorem keepsWays_put {place : Location} (hne : place ≠ []) {node : FileNode}
    (free : ∀ node, IsWay node → t.get? place ≠ some node) : t.KeepsWays (t.put place node) := by
  intro q way hway hq
  rw [get?_put t hne, if_neg]
  · exact hq
  · rintro rfl
    exact free way hway hq

/-- A new file is no way. -/
theorem keepsWays_of_put {place : Location} (hne : place ≠ []) (content : ByteArray) :
    (t.put place (.file content)).KeepsWays t := by
  intro q way hway hq
  rw [get?_put t hne] at hq
  split at hq
  · obtain rfl := Option.some.inj hq
    exact absurd hway id
  · exact hq

/-- Without a file all ways are left. -/
theorem keepsWays_erase {place : Location} {content : ByteArray}
    (stands : t.get? place = some (.file content)) : t.KeepsWays (t.erase place) := by
  intro q way hway hq
  rw [get?_erase, hq]
  rintro rfl
  rw [stands] at hq
  obtain rfl := Option.some.inj hq
  exact hway

/-- Nothing becomes a way by being taken away. -/
theorem keepsWays_of_erase {place : Location} (hne : place ≠ []) : (t.erase place).KeepsWays t := by
  intro q way _ hq
  by_cases same : q = place
  · rw [same, get?_erase_self t hne] at hq
    cases hq
  · rwa [get?_erase t same] at hq

/-! ## Renaming -/

/-- The parts of a path that ends in no slash. -/
theorem rawSegments_of_splitLast {before : List String}
    (h : splitLast p = (before, some name, false)) :
    rawSegments p.text = before ++ [name] ∧ name ≠ "" := by
  unfold splitLast at h
  simp only at h
  split at h
  · cases h
  · rename_i last rest hdrop
    simp only [Prod.mk.injEq, Option.some.injEq] at h
    obtain ⟨rfl, rfl, hhead⟩ := h
    cases hr : (rawSegments p.text).reverse with
    | nil => simp [hr] at hdrop
    | cons first others =>
      have hne : (first == "") = false := by simpa [hr] using hhead
      rw [hr, List.dropWhile_cons, hne] at hdrop
      obtain ⟨rfl, rfl⟩ := List.cons.inj hdrop
      refine ⟨?_, by simpa using hne⟩
      rw [← List.reverse_reverse (rawSegments p.text), hr, List.reverse_cons]

theorem splitLast_of_rawSegments {before : List String}
    (h : rawSegments p.text = before ++ [name]) (notEmpty : name ≠ "") :
    splitLast p = (before, some name, false) := by
  have hne : (name == "") = false := by simpa using notEmpty
  simp [splitLast, h, hne]

/-- A file can be renamed to a name that no directory bears. -/
theorem exists_rename_of_leadsTo {source : Location} {moved : FileNode}
    (leads : t.LeadsTo p d name) (stands : t.get? source = some moved)
    (notDirectory : t.get? (d ++ [name]) ≠ some .directory) :
    ∃ t', t.rename source p = .ok t' := by
  obtain ⟨before, segments, walked⟩ := leads.walked
  have nontrivial := leads.named.nontrivial
  have notParent := leads.named.notParent
  have parts := splitLast_of_rawSegments segments fun h => nontrivial (.inl h)
  unfold rename
  simp only [stands, leads.fits, parts, walked]
  split
  · rename_i h
    cases h
  · rename_i h
    exact absurd (Option.some.inj h) fun h => nontrivial (.inr h)
  · rename_i h
    exact absurd (Option.some.inj h) notParent
  · rename_i last _ _ h
    obtain rfl := Option.some.inj h
    rw [if_neg leads.named.fits, if_neg (by decide)]
    split
    · rename_i h
      exact absurd h notDirectory
    · split
      · exact ⟨_, rfl⟩
      · exact ⟨_, rfl⟩

/-- Renaming puts what stood at the source at a name that no directory bears. -/
theorem exists_leadsTo_of_rename {source : Location} (h : t.rename source p = .ok t') :
    ∃ d name moved, t.LeadsTo p d name ∧ t.get? source = some moved ∧
      t.get? (d ++ [name]) ≠ some .directory ∧
      t' = if d ++ [name] = source then t else (t.erase source).put (d ++ [name]) moved := by
  unfold rename at h
  split at h
  · cases h
  · rename_i moved hmoved
    split at h
    · cases h
    · rename_i fits
      obtain ⟨⟨before, last, slash⟩, hs⟩ : ∃ parts, splitLast p = parts := ⟨_, rfl⟩
      rw [hs] at h
      simp only at h
      split at h
      · cases h
      · cases h
      · rename_i above walked
        split at h
        · cases h
        · cases h
        · cases h
        · rename_i name notCurrent notParent
          split at h
          · cases h
          · rename_i short
            split at h
            · cases h
            · rename_i noSlash
              obtain rfl : slash = false := by simpa using noSlash
              obtain ⟨segments, notEmpty⟩ := rawSegments_of_splitLast hs
              have named : IsEntryName name :=
                ⟨fun trivial => trivial.elim notEmpty fun h => notCurrent (by rw [h]),
                  fun h => notParent (by rw [h]), short⟩
              refine ⟨above, name, moved, ⟨fits, named, before, segments, walked⟩, hmoved, ?_⟩
              split at h
              · cases h
              · rename_i notDirectory
                refine ⟨notDirectory, ?_⟩
                split at h
                · rename_i same
                  rw [if_pos same]
                  exact (Except.ok.inj h).symm
                · rename_i other
                  rw [if_neg other]
                  exact (Except.ok.inj h).symm
      · cases h

/-! ## Links -/

/-- Every symbolic link of `t'` stands in `t`. -/
def LinksWithin (t t' : FileTree) : Prop :=
  ∀ place target, t'.get? place = some (.link target) → t.get? place = some (.link target)

theorem LinksWithin.refl (t : FileTree) : t.LinksWithin t := fun _ _ h => h

theorem LinksWithin.trans {t'' : FileTree} (h : t.LinksWithin t') (h' : t'.LinksWithin t'') :
    t.LinksWithin t'' := fun place target hl => h place target (h' place target hl)

theorem linksWithin_put {place : Location} (hne : place ≠ []) {node : FileNode}
    (notLink : ∀ target, node ≠ .link target) : t.LinksWithin (t.put place node) := by
  intro q target hq
  rw [get?_put t hne] at hq
  split at hq
  · exact absurd (Option.some.inj hq) (notLink target)
  · exact hq

/-- A free name is not the root. -/
theorem ne_nil_of_walk_free {links : Nat} {follow asDirectory : Bool} {here place : Location}
    {segments : List String}
    (walked : walk t links follow here segments = .ok (.free place asDirectory)) : place ≠ [] := by
  fun_induction walk t links follow here segments with
  | case2 links here segment rest _ ih => exact ih walked
  | case3 links here rest _ ih => exact ih walked
  | case5 links here segment rest _ _ _ there _ _ =>
    obtain ⟨rfl, -⟩ := Found.free.inj (Except.ok.inj walked)
    simp [there]
  | case9 links here segment rest _ _ _ there _ ih => exact ih walked
  | case12 here segment rest _ _ _ there target _ _ links ih => exact ih walked
  | _ => simp at walked

/-- Nothing stands at a free name. -/
theorem get?_of_walk_free {links : Nat} {follow asDirectory : Bool} {here place : Location}
    {segments : List String}
    (walked : walk t links follow here segments = .ok (.free place asDirectory)) :
    t.get? place = none := by
  fun_induction walk t links follow here segments with
  | case2 links here segment rest _ ih => exact ih walked
  | case3 links here rest _ ih => exact ih walked
  | case5 links here segment rest _ _ _ there hn _ =>
    obtain ⟨rfl, -⟩ := Found.free.inj (Except.ok.inj walked)
    exact hn
  | case9 links here segment rest _ _ _ there _ ih => exact ih walked
  | case12 here segment rest _ _ _ there target _ _ links ih => exact ih walked
  | _ => simp at walked

theorem linksWithin_makeDirectory (h : t.makeDirectory p = .ok t') : t.LinksWithin t' := by
  unfold makeDirectory FileTree.find at h
  split at h
  · cases h
  · rename_i place asDirectory found
    split at found
    · cases found
    · obtain rfl := Except.ok.inj h
      exact linksWithin_put (ne_nil_of_walk_free found) (by simp)
  · cases h

/-- The tree that an operation leaves, whether it succeeds or not. -/
def treeLeft : Except (IoFault × FileTree) FileTree → FileTree
  | .ok t => t
  | .error e => e.2

/-- What holds of making one directory, and of doing so again and again, holds of making a directory
with those above it. -/
theorem makeFirst_induction (R : FileTree → FileTree → Prop) (refl : ∀ t, R t t)
    (trans : ∀ t t' t'', R t t' → R t' t'' → R t t'')
    (step : ∀ t p t', t.makeDirectory p = .ok t' → R t t') (refuses : Path → Option IoFault)
    (paths : List Path) (t : FileTree) : R t (treeLeft (makeFirst refuses t paths)) := by
  induction paths generalizing t with
  | nil => exact refl t
  | cons p above ih =>
    have settled : ∀ (t : FileTree) (fault : IoFault), R t (treeLeft
        (if t.isDirectory p then .ok t else .error (fault, t))) := by
      intro t fault
      split <;> exact refl t
    unfold makeFirst
    simp only
    split
    · exact refl t
    · split
      · rename_i first hfirst
        split at hfirst
        · cases hfirst
        · exact step t p first hfirst
      · have before := ih t
        split
        · rename_i e he
          rwa [he] at before
        · rename_i between hbetween
          rw [hbetween] at before
          refine trans _ _ _ before ?_
          split
          · rename_i last hlast
            split at hlast
            · cases hlast
            · exact step between p last hlast
          · exact settled between _
      · exact settled t _

end ModelSchema.FileTree
