import ModelSchema.Proofs.Path.Join
import ModelSchema.Source

/-!
# Sources below a root

The decision about a path below the root looks at the names below the root and at nothing else, so a
project can stand anywhere, also below a directory with an excluded name.

## Main definitions

* `Path.Names.relativeText` — what the exclusions look at in names below a root.

## Main statements

* `SourceDirectory.relativeText_join` — the exclusions look at the names only.
* `SourceDirectory.accepts_join`, `SourceDirectory.mayContain_join` — the decision about names.
* `SourceDirectory.decides_below_root` — the decision does not depend on the root.
-/

namespace ModelSchema

/-- What the exclusions look at in names below a root: slashes stand for backslashes. -/
def Path.Names.relativeText (n : Path.Names) : List Char :=
  n.path.text.toList.map fun c => if c = '\\' then '/' else c

theorem ExcludeRule.exists_ofEntry {entry : String}
    (compiles : Glob.isPattern entry → ∃ tokens, Glob.compile entry = .ok tokens) :
    ∃ rule, ofEntry entry = .ok rule := by
  unfold ofEntry
  split
  · rename_i pattern
    obtain ⟨tokens, same⟩ := compiles pattern
    exact ⟨.pattern tokens, by rw [same]⟩
  · exact ⟨.part entry, rfl⟩

namespace SourceDirectory

/-! ## From settings -/

/-- The exclusions of settings become rules if every pattern among them compiles. -/
theorem exists_rules {entries : List String} (compiles : ∀ entry ∈ entries,
    Glob.isPattern entry → ∃ tokens, Glob.compile entry = .ok tokens) :
    ∃ rules, entries.mapM ExcludeRule.ofEntry = .ok rules := by
  induction entries with
  | nil => exact ⟨[], rfl⟩
  | cons entry entries ih =>
    obtain ⟨rule, first⟩ := ExcludeRule.exists_ofEntry (compiles entry List.mem_cons_self)
    obtain ⟨rules, others⟩ := ih fun other h => compiles other (List.mem_cons_of_mem entry h)
    exact ⟨rule :: rules, by rw [List.mapM_cons, first, others]; rfl⟩

theorem ofSettings_of_rules {s : SourceSettings} {rules : List ExcludeRule}
    (h : s.exclude.mapM ExcludeRule.ofEntry = .ok rules) :
    ofSettings s = .ok ⟨s.root, s.extensions, rules⟩ := by
  rw [ofSettings, h]
  rfl

/-! ## Decisions about names -/

variable (d : SourceDirectory) (n : Path.Names)

theorem relativeText_join : d.relativeText (d.root.join n.path.text) = n.relativeText := by
  rw [relativeText, Path.relativeTo?_join]
  rfl

theorem isExcluded_join :
    d.isExcluded (d.root.join n.path.text) = d.exclude.any (·.excludes n.relativeText) := by
  rw [isExcluded, relativeText_join]

theorem accepts_join :
    d.accepts (d.root.join n.path.text) =
      ((n.path.extension?.any fun e => d.extensions.any (Text.sameIgnoringAsciiCase e)) &&
        !d.exclude.any (·.excludes n.relativeText)) := by
  rw [accepts, isExcluded_join, Path.extension?_join]

theorem mayContain_join :
    d.mayContain (d.root.join n.path.text) =
      (n.path.extension?.isNone && !d.exclude.any (·.excludes n.relativeText)) := by
  rw [mayContain, isExcluded_join, Path.extension?_join, Path.startsWith_join, Path.not_same_join]
  rfl

/-- Source directories whose settings differ in the root only can be made of them if the patterns
among the exclusions compile, and each decides about names below its root as the other does: whether
they are excluded, whether they are those of a source file, and whether they may be those of a
directory of source files. -/
theorem decides_below_root (s : SourceSettings) (compiles : ∀ entry ∈ s.exclude,
    Glob.isPattern entry → ∃ tokens, Glob.compile entry = .ok tokens) (root root' : Path) :
    ∃ d d', ofSettings { s with root } = .ok d ∧ ofSettings { s with root := root' } = .ok d' ∧
      ∀ n : Path.Names,
        d.isExcluded (root.join n.path.text) = d'.isExcluded (root'.join n.path.text) ∧
        d.accepts (root.join n.path.text) = d'.accepts (root'.join n.path.text) ∧
        d.mayContain (root.join n.path.text) = d'.mayContain (root'.join n.path.text) := by
  obtain ⟨rules, same⟩ := exists_rules compiles
  refine ⟨⟨root, s.extensions, rules⟩, ⟨root', s.extensions, rules⟩, ofSettings_of_rules same,
    ofSettings_of_rules same, fun n => ⟨?_, ?_, ?_⟩⟩
  · exact (isExcluded_join ⟨root, s.extensions, rules⟩ n).trans
      (isExcluded_join ⟨root', s.extensions, rules⟩ n).symm
  · exact (accepts_join ⟨root, s.extensions, rules⟩ n).trans
      (accepts_join ⟨root', s.extensions, rules⟩ n).symm
  · exact (mayContain_join ⟨root, s.extensions, rules⟩ n).trans
      (mayContain_join ⟨root', s.extensions, rules⟩ n).symm

/-- The settings of a project without its build and its declaration files. -/
def projectSettings : SourceSettings := { exclude := ["dist", "*.d.ts"] }

/-- A model file in a project below a directory with an excluded name, and in the same project as it
is seen from where it stands. -/
theorem decides_below_root_dist :
    ∃ d d', ofSettings { projectSettings with root := ⟨"/srv/dist//app/."⟩ } = .ok d ∧
      ofSettings { projectSettings with root := ⟨""⟩ } = .ok d' ∧
      d.accepts ⟨"/srv/dist//app/./models/member.ts"⟩ = true ∧
      d'.accepts ⟨"models/member.ts"⟩ = true ∧
      d.accepts ⟨"/srv/dist//app/./dist/member.ts"⟩ = false ∧
      d'.accepts ⟨"dist/member.ts"⟩ = false := by
  have pattern : Glob.compile "*.d.ts" = .ok (.anySequence :: ".d.ts".toList.map .literal) := by
    decide +kernel
  have compiles : ∀ entry ∈ projectSettings.exclude,
      Glob.isPattern entry → ∃ tokens, Glob.compile entry = .ok tokens := by
    intro entry h
    rcases List.mem_cons.1 h with rfl | h
    · exact fun starred => absurd starred (by decide)
    · obtain rfl := List.mem_singleton.1 h
      exact fun _ => ⟨_, pattern⟩
  obtain ⟨d, d', hd, hd', same⟩ :=
    decides_below_root projectSettings compiles ⟨"/srv/dist//app/."⟩ ⟨""⟩
  have known : ofSettings { projectSettings with root := ⟨""⟩ } =
      .ok ⟨⟨""⟩, ["ts", "tsx", "mts", "cts"],
        [.part "dist", .pattern (.anySequence :: ".d.ts".toList.map .literal)]⟩ := by
    decide +kernel
  obtain rfl := Except.ok.inj (hd'.symm.trans known)
  have model := (same ⟨["models".toList, "member.ts".toList], by decide, by decide⟩).2.1
  have built := (same ⟨["dist".toList, "member.ts".toList], by decide, by decide⟩).2.1
  refine ⟨d, _, hd, hd', ?_, by decide +kernel, ?_, by decide +kernel⟩
  · exact model.trans (by decide +kernel)
  · exact built.trans (by decide +kernel)

end SourceDirectory

end ModelSchema
