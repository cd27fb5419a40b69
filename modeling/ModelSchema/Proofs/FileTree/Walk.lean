import ModelSchema.FileTree

/-!
# Walks through a file tree

A walk only looks at the directories and symbolic links that it leads through, so a file that
comes or goes does not change where a path to a directory leads. The last name of a path is looked
up in the directory that the names before it lead to.

## Main definitions

* `FileTree.KeepsWays` — every directory and link of one tree stands in another one.
* `FileTree.IsEntryName` — a name that a directory can hold.
* `FileTree.IsDeadEnd` — a name that no walk leads on through.

## Main statements

* `FileTree.get?_put`, `FileTree.get?_erase` — the nodes of a changed tree.
* `FileTree.walk_of_keepsWays` — walks to directories and links survive where ways do.
* `FileTree.walk_append` — a walk in two parts.
* `FileTree.walk_concat`, `FileTree.exists_walk_of_concat` — the last name of a path.
* `FileTree.walk_put` — walks to directories survive what is put at a dead end.
-/

namespace ModelSchema.FileTree

variable {t t' : FileTree}

/-! ## Nodes -/

theorem lookup_map_replace (place : Location) (node : FileNode) (q : Location)
    (nodes : List (Location × FileNode)) :
    (nodes.map fun n => if n.1 = place then (place, node) else n).lookup q =
      if q = place then (if nodes.any (·.1 = place) then some node else none)
      else nodes.lookup q := by
  induction nodes with
  | nil => simp
  | cons n nodes ih =>
    obtain ⟨here, old⟩ := n
    rw [List.map_cons, List.lookup_cons]
    by_cases hn : here = place
    · by_cases hq : q = place
      · simp [hn, hq]
      · have ne : (q == place) = false := by simpa using hq
        simp only [hn, if_true, List.lookup_cons, ne, ih, hq, if_false]
    · rw [if_neg hn, List.lookup_cons, ih]
      by_cases hq : q = place
      · have ne : (place == here) = false := by simpa using Ne.symm hn
        subst hq
        simp only [List.any_cons, decide_eq_false hn, Bool.false_or, ne, if_true]
      · simp [hq]

/-- The nodes of a tree with one more node. -/
theorem get?_put (t : FileTree) {place : Location} (hne : place ≠ []) (node : FileNode)
    (q : Location) : (t.put place node).get? q = if q = place then some node else t.get? q := by
  unfold get? put
  by_cases hq : q = []
  · rw [if_pos hq, if_pos hq, if_neg fun h => hne (h.symm.trans hq)]
  · rw [if_neg hq, if_neg hq]
    by_cases h : t.nodes.any (·.1 = place) = true
    · rw [if_pos h, lookup_map_replace, h]
      rfl
    · rw [if_neg h, List.lookup_append]
      by_cases same : q = place
      · have none : t.nodes.lookup place = none := by
          rw [List.lookup_eq_none_iff]
          intro n hn
          have other : ¬ n.1 = place := fun hp => h (List.any_eq_true.2 ⟨n, hn, by simp [hp]⟩)
          simpa using Ne.symm other
        simp [same, none]
      · have ne : (q == place) = false := by simpa using same
        simp [same, List.lookup_cons, ne]

/-- The nodes of a tree without a node. -/
theorem get?_erase (t : FileTree) {place q : Location} (h : q ≠ place) :
    (t.erase place).get? q = t.get? q := by
  unfold get? erase
  split
  · rfl
  · induction t.nodes with
    | nil => rfl
    | cons n nodes ih =>
      obtain ⟨here, old⟩ := n
      rw [List.filter_cons, List.lookup_cons]
      by_cases hn : here = place
      · subst hn
        have ne : (q == here) = false := by simpa using h
        simpa [ne] using ih
      · rw [if_pos (by simpa using hn), List.lookup_cons, ih]

theorem get?_erase_self (t : FileTree) {place : Location} (hne : place ≠ []) :
    (t.erase place).get? place = none := by
  unfold get? erase
  rw [if_neg hne, List.lookup_eq_none_iff]
  intro n hn
  have other : n.1 ≠ place := by simpa using (List.mem_filter.1 hn).2
  simpa using other.symm

/-! ## Steps -/

/-- A name that a directory can hold. -/
structure IsEntryName (name : String) : Prop where
  nontrivial : ¬ (name = "" ∨ name = ".")
  notParent : name ≠ ".."
  fits : ¬ nameLimit < name.utf8ByteSize

instance (name : String) : Decidable (IsEntryName name) :=
  decidable_of_iff
    (¬ (name = "" ∨ name = ".") ∧ name ≠ ".." ∧ ¬ nameLimit < name.utf8ByteSize)
    ⟨fun ⟨nontrivial, notParent, fits⟩ => ⟨nontrivial, notParent, fits⟩,
      fun ⟨nontrivial, notParent, fits⟩ => ⟨nontrivial, notParent, fits⟩⟩

variable {links : Nat} {follow : Bool} {here d : Location} {segment : String}
  {segments rest : List String}

theorem walk_trivial (h : segment = "" ∨ segment = ".") :
    walk t links follow here (segment :: rest) = walk t links follow here rest := by
  rw [walk, if_pos h]

theorem walk_parent :
    walk t links follow here (".." :: rest) = walk t links follow here.dropLast rest := by
  rw [walk, if_neg (by decide), if_pos rfl]

theorem walk_long (nontrivial : ¬ (segment = "" ∨ segment = ".")) (notParent : segment ≠ "..")
    (long : nameLimit < segment.utf8ByteSize) :
    walk t links follow here (segment :: rest) = .error .nameTooLong := by
  rw [walk, if_neg nontrivial, if_neg notParent, if_pos long]

theorem walk_none (h : IsEntryName segment) (hn : t.get? (here ++ [segment]) = none) :
    walk t links follow here (segment :: rest) =
      if rest.all (· == "") then .ok (.free (here ++ [segment]) !rest.isEmpty)
      else .error .notFound := by
  rw [walk, if_neg h.nontrivial, if_neg h.notParent, if_neg h.fits]
  simp only [hn]

theorem walk_file (h : IsEntryName segment) {content : ByteArray}
    (hn : t.get? (here ++ [segment]) = some (.file content)) :
    walk t links follow here (segment :: rest) =
      if rest.isEmpty then .ok (.node (here ++ [segment]) (.file content))
      else .error .notADirectory := by
  rw [walk, if_neg h.nontrivial, if_neg h.notParent, if_neg h.fits]
  simp only [hn]

theorem walk_directory (h : IsEntryName segment)
    (hn : t.get? (here ++ [segment]) = some .directory) :
    walk t links follow here (segment :: rest) =
      walk t links follow (here ++ [segment]) rest := by
  rw [walk, if_neg h.nontrivial, if_neg h.notParent, if_neg h.fits]
  simp only [hn]

theorem walk_link (h : IsEntryName segment) {target : String}
    (hn : t.get? (here ++ [segment]) = some (.link target))
    (hf : ¬ (rest.isEmpty && !follow) = true) :
    walk t (links + 1) follow here (segment :: rest) =
      walk t links follow (if target.toList.head? = some '/' then [] else here)
        (rawSegments target ++ rest) := by
  rw [walk, if_neg h.nontrivial, if_neg h.notParent, if_neg h.fits]
  simp only [hn, if_neg hf]

theorem walk_link_zero (h : IsEntryName segment) {target : String}
    (hn : t.get? (here ++ [segment]) = some (.link target))
    (hf : ¬ (rest.isEmpty && !follow) = true) :
    walk t 0 follow here (segment :: rest) = .error .tooManyLinks := by
  rw [walk, if_neg h.nontrivial, if_neg h.notParent, if_neg h.fits]
  simp only [hn, if_neg hf]

theorem walk_link_end (h : IsEntryName segment) {target : String}
    (hn : t.get? (here ++ [segment]) = some (.link target))
    (hf : (rest.isEmpty && !follow) = true) :
    walk t links follow here (segment :: rest) =
      .ok (.node (here ++ [segment]) (.link target)) := by
  rw [walk, if_neg h.nontrivial, if_neg h.notParent, if_neg h.fits]
  simp only [hn, if_pos hf]

/-! ## Ways -/

/-- A path can lead through a directory or a symbolic link, and not through a file. -/
def IsWay : FileNode → Prop
  | .file _ => False
  | _ => True

/-- Every directory and link of `t` stands in `t'`. -/
def KeepsWays (t t' : FileTree) : Prop :=
  ∀ place node, IsWay node → t.get? place = some node → t'.get? place = some node

/-- Where a walk to a directory or a link leads does not change if no way does. -/
theorem walk_of_keepsWays (h : t.KeepsWays t') {node : FileNode}
    (walked : walk t links follow here segments = .ok (.node d node))
    (way : IsWay node) :
    walk t' links follow here segments = .ok (.node d node) := by
  fun_induction walk t links follow here segments with
  | case1 => simpa [walk] using walked
  | case2 links here segment rest trivial ih =>
    rw [walk_trivial trivial]
    exact ih walked
  | case3 links here rest _ ih =>
    rw [walk_parent]
    exact ih walked
  | case7 links here segment rest _ _ _ there content _ _ =>
    obtain ⟨-, rfl⟩ := Found.node.inj (Except.ok.inj walked)
    exact absurd way id
  | case9 links here segment rest nontrivial notParent fits there hn ih =>
    rw [walk_directory ⟨nontrivial, notParent, fits⟩ (h _ _ trivial hn)]
    exact ih walked
  | case10 links here segment rest nontrivial notParent fits there target hn hf =>
    rw [walk_link_end ⟨nontrivial, notParent, fits⟩ (h _ _ trivial hn) hf]
    exact walked
  | case12 here segment rest nontrivial notParent fits there target hn hf links ih =>
    rw [walk_link ⟨nontrivial, notParent, fits⟩ (h _ _ trivial hn) hf]
    exact ih walked
  | _ => simp at walked

/-! ## Walks in two parts -/

/-- A walk goes on from the directory that its first part leads to. -/
theorem walk_append (hne : rest ≠ [])
    (walked : walk t links true here segments = .ok (.node d .directory)) :
    ∃ left, walk t links follow here (segments ++ rest) = walk t left follow d rest := by
  fun_induction walk t links true here segments with
  | case1 links here =>
    obtain rfl : here = d := by simpa using walked
    exact ⟨links, rfl⟩
  | case2 links here segment behind trivial ih =>
    rw [List.cons_append, walk_trivial trivial]
    exact ih walked
  | case3 links here behind _ ih =>
    rw [List.cons_append, walk_parent]
    exact ih walked
  | case9 links here segment behind nontrivial notParent fits there hn ih =>
    rw [List.cons_append, walk_directory ⟨nontrivial, notParent, fits⟩ hn]
    exact ih walked
  | case12 here segment behind nontrivial notParent fits there target hn _ links ih =>
    rw [List.cons_append, walk_link ⟨nontrivial, notParent, fits⟩ hn (by simp [hne]),
      ← List.append_assoc]
    exact ih walked
  | _ => simp at walked

/-- If a walk leads on from its first part, this part leads to a directory. -/
theorem exists_walk_of_append {found : Found}
    (goesOn : rest.all (· == "") = true → ∃ d, found = .node d .directory)
    (walked : walk t links follow here (segments ++ rest) = .ok found) :
    ∃ d, walk t links true here segments = .ok (.node d .directory) := by
  -- Where the first part leads to no directory, the whole walk ends there or fails.
  fun_induction walk t links true here segments with
  | case1 links here => exact ⟨here, rfl⟩
  | case2 links here segment behind trivial ih =>
    rw [List.cons_append, walk_trivial trivial] at walked
    exact ih walked
  | case3 links here behind _ ih =>
    rw [List.cons_append, walk_parent] at walked
    exact ih walked
  | case4 links here segment behind nontrivial notParent long =>
    rw [List.cons_append, walk_long nontrivial notParent long] at walked
    cases walked
  | case5 links here segment behind nontrivial notParent fits there hn _ =>
    rw [List.cons_append, walk_none ⟨nontrivial, notParent, fits⟩ hn] at walked
    split at walked
    · rename_i all
      rw [List.all_append, Bool.and_eq_true] at all
      obtain ⟨d, rfl⟩ := goesOn all.2
      cases walked
    · cases walked
  | case6 links here segment behind nontrivial notParent fits there hn hall =>
    rw [List.cons_append, walk_none ⟨nontrivial, notParent, fits⟩ hn,
      if_neg (by rw [List.all_append, Bool.and_eq_true]; exact fun all => hall all.1)] at walked
    cases walked
  | case7 links here segment behind nontrivial notParent fits there content hn _ =>
    rw [List.cons_append, walk_file ⟨nontrivial, notParent, fits⟩ hn] at walked
    split at walked
    · rename_i ends
      obtain ⟨d, rfl⟩ := goesOn (by simp_all)
      cases walked
    · cases walked
  | case8 links here segment behind nontrivial notParent fits there content hn _ =>
    rw [List.cons_append, walk_file ⟨nontrivial, notParent, fits⟩ hn,
      if_neg (by simp_all)] at walked
    cases walked
  | case9 links here segment behind nontrivial notParent fits there hn ih =>
    rw [List.cons_append, walk_directory ⟨nontrivial, notParent, fits⟩ hn] at walked
    exact ih walked
  | case10 => simp at *
  | case11 here segment behind nontrivial notParent fits there target hn _ =>
    by_cases ends : ((behind ++ rest).isEmpty && !follow) = true
    · rw [List.cons_append, walk_link_end ⟨nontrivial, notParent, fits⟩ hn ends] at walked
      obtain ⟨d, rfl⟩ := goesOn (by simp_all)
      cases walked
    · rw [List.cons_append, walk_link_zero ⟨nontrivial, notParent, fits⟩ hn ends] at walked
      cases walked
  | case12 here segment behind nontrivial notParent fits there target hn _ links ih =>
    by_cases ends : ((behind ++ rest).isEmpty && !follow) = true
    · rw [List.cons_append, walk_link_end ⟨nontrivial, notParent, fits⟩ hn ends] at walked
      obtain ⟨d, rfl⟩ := goesOn (by simp_all)
      cases walked
    · rw [List.cons_append, walk_link ⟨nontrivial, notParent, fits⟩ hn ends,
        ← List.append_assoc] at walked
      exact ih walked

/-- The last name of a path is looked up in the directory to which the names before it lead, unless
it is a link that is followed. -/
theorem walk_concat {before : List String} {name : String}
    (walked : walk t links true here before = .ok (.node d .directory)) (hname : IsEntryName name)
    (ends : follow = true → ∀ target, t.get? (d ++ [name]) ≠ some (.link target)) :
    walk t links follow here (before ++ [name]) =
      match t.get? (d ++ [name]) with
      | some node => .ok (.node (d ++ [name]) node)
      | none => .ok (.free (d ++ [name]) false) := by
  obtain ⟨left, goesOn⟩ : ∃ left, walk t links follow here (before ++ [name]) =
      walk t left follow d [name] := walk_append (List.cons_ne_nil name []) walked
  rw [goesOn]
  cases hn : t.get? (d ++ [name]) with
  | none => rw [walk_none hname hn]; rfl
  | some node =>
    cases node with
    | file content => rw [walk_file hname hn]; rfl
    | directory => rw [walk_directory hname hn, walk]
    | link target =>
      cases follow with
      | true => exact absurd hn (ends rfl target)
      | false => rw [walk_link_end hname hn (by simp)]

/-- If a path with a last name leads anywhere, the names before it lead to a directory. -/
theorem exists_walk_of_concat {before : List String} {name : String} {found : Found}
    (nontrivial : ¬ (name = "" ∨ name = ".")) (notParent : name ≠ "..")
    (walked : walk t links follow here (before ++ [name]) = .ok found) :
    IsEntryName name ∧ ∃ d, walk t links true here before = .ok (.node d .directory) := by
  have notEmpty : name ≠ "" := fun h => nontrivial (.inl h)
  obtain ⟨d, above⟩ :=
    exists_walk_of_append (fun all => absurd all (by simpa using notEmpty)) walked
  refine ⟨⟨nontrivial, notParent, fun long => ?_⟩, d, above⟩
  obtain ⟨left, goesOn⟩ := walk_append (List.cons_ne_nil name []) above
  rw [goesOn, walk_long nontrivial notParent long] at walked
  cases walked

/-! ## Dead ends -/

/-- No walk leads on through the name in the directory at `d`. -/
def IsDeadEnd (t : FileTree) (d : Location) (name : String) : Prop :=
  ∀ links place, walk t links true d [name] ≠ .ok (.node place .directory)

theorem IsDeadEnd.of_keepsWays {name : String} (h : t.IsDeadEnd d name) (ways : t'.KeepsWays t) :
    t'.IsDeadEnd d name :=
  fun links place walked => h links place (walk_of_keepsWays ways walked trivial)

/-- Where a walk to a directory leads does not change by what is put at a dead end. -/
theorem walk_put {d' : Location} {name : String}
    (deadEnd : t.IsDeadEnd d name) (node : FileNode)
    (walked : walk t links true here segments = .ok (.node d' .directory)) :
    walk (t.put (d ++ [name]) node) links true here segments = .ok (.node d' .directory) := by
  fun_induction walk t links true here segments with
  | case1 => simpa [walk] using walked
  | case2 links here segment rest trivial ih =>
    rw [walk_trivial trivial]
    exact ih walked
  | case3 links here rest _ ih =>
    rw [walk_parent]
    exact ih walked
  | case9 links here segment rest nontrivial notParent fits there hn ih =>
    have other : here ++ [segment] ≠ d ++ [name] := by
      intro same
      obtain ⟨rfl, names⟩ := List.append_inj' same rfl
      obtain rfl : segment = name := by simpa using names
      exact deadEnd links there (by rw [walk_directory ⟨nontrivial, notParent, fits⟩ hn, walk])
    rw [walk_directory ⟨nontrivial, notParent, fits⟩ (by rwa [get?_put t (by simp), if_neg other])]
    exact ih walked
  | case12 here segment rest nontrivial notParent fits there target hn hf links ih =>
    have other : here ++ [segment] ≠ d ++ [name] := by
      intro same
      obtain ⟨rfl, names⟩ := List.append_inj' same rfl
      obtain rfl : segment = name := by simpa using names
      obtain ⟨place, leads⟩ := exists_walk_of_append (fun _ => ⟨d', rfl⟩) walked
      refine deadEnd (links + 1) place ?_
      rw [walk_link ⟨nontrivial, notParent, fits⟩ hn (by simp), List.append_nil, leads]
    rw [walk_link ⟨nontrivial, notParent, fits⟩ (by rwa [get?_put t (by simp), if_neg other]) hf]
    exact ih walked
  | _ => simp at walked

/-- With another number of links a walk leads to the same place or runs out of links. -/
theorem walk_links {found : Found}
    (walked : walk t links follow here segments = .ok found) (links' : Nat) :
    walk t links' follow here segments = .ok found ∨
      walk t links' follow here segments = .error .tooManyLinks := by
  fun_induction walk t links follow here segments generalizing links' with
  | case1 => exact .inl (by rw [walk, walked])
  | case2 links here segment rest trivial ih =>
    rw [walk_trivial trivial]
    exact ih walked links'
  | case3 links here rest _ ih =>
    rw [walk_parent]
    exact ih walked links'
  | case5 links here segment rest nontrivial notParent fits there hn hall =>
    rw [walk_none ⟨nontrivial, notParent, fits⟩ hn, if_pos hall]
    exact .inl walked
  | case7 links here segment rest nontrivial notParent fits there content hn ends =>
    rw [walk_file ⟨nontrivial, notParent, fits⟩ hn, if_pos ends]
    exact .inl walked
  | case9 links here segment rest nontrivial notParent fits there hn ih =>
    rw [walk_directory ⟨nontrivial, notParent, fits⟩ hn]
    exact ih walked links'
  | case10 links here segment rest nontrivial notParent fits there target hn hf =>
    rw [walk_link_end ⟨nontrivial, notParent, fits⟩ hn hf]
    exact .inl walked
  | case12 here segment rest nontrivial notParent fits there target hn hf links ih =>
    cases links' with
    | zero =>
      rw [walk_link_zero ⟨nontrivial, notParent, fits⟩ hn hf]
      exact .inr rfl
    | succ links' =>
      rw [walk_link ⟨nontrivial, notParent, fits⟩ hn hf]
      exact ih walked links'
  | _ => simp at walked

/-- A link that a walk ends at stands in the tree. -/
theorem get?_of_walk_link {place : Location} {target : String}
    (walked : walk t links follow here segments = .ok (.node place (.link target))) :
    t.get? place = some (.link target) := by
  fun_induction walk t links follow here segments with
  | case2 links here segment rest _ ih => exact ih walked
  | case3 links here rest _ ih => exact ih walked
  | case9 links here segment rest _ _ _ there hn ih => exact ih walked
  | case10 links here segment rest _ _ _ there target' hn hf =>
    obtain ⟨rfl, same⟩ := Found.node.inj (Except.ok.inj walked)
    rw [← same]
    exact hn
  | case12 here segment rest _ _ _ there target' hn hf links ih => exact ih walked
  | _ => simp at walked

end ModelSchema.FileTree
