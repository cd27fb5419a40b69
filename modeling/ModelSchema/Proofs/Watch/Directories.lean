import ModelSchema.Proofs.Path
import ModelSchema.Watch.EventFilter

/-!
# Directories of source files

The sources are files told by their extension and by what their path below the root looks like,
while a report about a directory shows only the path of the directory. What the rules for parts of
paths exclude of a directory they exclude of everything in it, so such a report asks for a pass
whenever the directory holds a source file, unless the name of the directory looks like that of a
file of another kind.

## Main definitions

* `SourceDirectory.HasSourceExtension` — the name of a path ends as that of a source file.
* `EventFilter.Overlooks` — a directory with a source file disappears without a pass.

## Main statements

* `Text.contains_iff_isInfix` — what it means that a text occurs in another.
* `SourceDirectory.isExcluded_of_continues` — what is excluded with a directory.
* `EventFilter.mem_qualifying_iff_of_accepts` — when a report about a directory asks for a pass.
-/

namespace ModelSchema

theorem Text.contains_iff_isInfix {part cs : List Char} :
    contains part cs = true ↔ part <:+: cs := by
  induction cs with
  | nil => rw [contains, List.isEmpty_iff, List.infix_nil]
  | cons c cs ih =>
    rw [contains, Bool.or_eq_true, ih, List.isPrefixOf_iff_prefix, List.infix_cons_iff]

namespace SourceDirectory

variable {s : SourceDirectory} {d f : Path}

/-- Whether the name of a path ends in one of the extensions of source files. -/
def HasSourceExtension (s : SourceDirectory) (p : Path) : Prop :=
  ∃ e ∈ p.extension?, ∃ x ∈ s.extensions, Text.sameIgnoringAsciiCase e x

theorem accepts_iff {p : Path} :
    s.accepts p ↔ s.HasSourceExtension p ∧ s.isExcluded p = false := by
  simp [accepts, HasSourceExtension, Option.any_eq_true, List.any_eq_true]

theorem mayContain_iff {p : Path} :
    s.mayContain p ↔ p.startsWith s.root ∧ ¬ p.same s.root ∧ p.extension? = none ∧
      s.isExcluded p = false := by
  simp [mayContain, and_assoc]

/-- What the exclusions look at in a directory is in front of what they look at in a path that
continues it. -/
theorem relativeText_isPrefix (h : f.Continues d) (below : d.startsWith s.root) :
    s.relativeText d <+: s.relativeText f := by
  obtain ⟨text, htext, longer, hlonger, texts⟩ := h.relativeTo?_isPrefix below
  rw [Option.mem_def] at htext hlonger
  rw [relativeText, relativeText, htext, hlonger]
  exact texts.map _

/-- What excludes a directory, other than a pattern for the directory itself, excludes what is
in it. -/
theorem isExcluded_of_continues (h : f.Continues d) (below : d.startsWith s.root)
    (unmatched : ∀ tokens, .pattern tokens ∈ s.exclude →
      ¬ Glob.matchesTokens tokens (s.relativeText d))
    (excluded : s.isExcluded d) : s.isExcluded f := by
  obtain ⟨rule, hrule, hd⟩ := List.any_eq_true.1 excluded
  refine List.any_eq_true.2 ⟨rule, hrule, ?_⟩
  cases rule with
  | part text =>
    have occurs : text.toList <:+: s.relativeText d := Text.contains_iff_isInfix.1 hd
    exact Text.contains_iff_isInfix.2 (occurs.trans (relativeText_isPrefix h below).isInfix)
  | pattern tokens => exact absurd hd (unmatched tokens hrule)

end SourceDirectory

/-- What appears, disappears or moves has changed. -/
theorem EventKind.isChange_of_isStructural {kind : EventKind} (h : kind.isStructural) :
    kind.isChange := by
  unfold isStructural at h
  split at h
  · rfl
  · rfl
  · rfl
  · cases h

namespace EventFilter

variable {d f p : Path} {kind : EventKind} {paths : List Path}

theorem mem_qualifying_iff (filter : EventFilter) :
    p ∈ filter.qualifying (.event kind paths) ↔
      kind.isChange ∧ p ∈ paths ∧ filter.asksForPass kind p := by
  unfold qualifying
  split <;> simp_all

/-- A report that a directory below the root, other than the schema, may have appeared, disappeared
or moved asks for a pass if the directory holds a source file, its name has no extension or that of
a source file, and no pattern matches the directory itself. -/
theorem mem_qualifying_iff_of_accepts (filter : EventFilter) (structural : kind.isStructural)
    (reported : d ∈ paths) (below : d.startsWith filter.source.root)
    (notRoot : ¬ d.same filter.source.root) (notOutput : ¬ d.same filter.output)
    (inside : f.Continues d) (accepted : filter.source.accepts f)
    (unmatched : ∀ tokens, .pattern tokens ∈ filter.source.exclude →
      ¬ Glob.matchesTokens tokens (filter.source.relativeText d)) :
    d ∈ filter.qualifying (.event kind paths) ↔
      d.extension? = none ∨ filter.source.HasSourceExtension d := by
  have kept : filter.source.isExcluded d = false := by
    rw [Bool.eq_false_iff]
    intro excluded
    have excluded' := SourceDirectory.isExcluded_of_continues inside below unmatched excluded
    rw [(SourceDirectory.accepts_iff.1 accepted).2] at excluded'
    cases excluded'
  have asks : filter.asksForPass kind d ↔
      filter.source.HasSourceExtension d ∨ d.extension? = none := by
    simp only [asksForPass, Bool.and_eq_true, Bool.or_eq_true, SourceDirectory.accepts_iff,
      SourceDirectory.mayContain_iff]
    simp [structural, below, notRoot, notOutput, kept]
  rw [mem_qualifying_iff, asks, or_comm]
  simp [EventKind.isChange_of_isStructural structural, reported]

/-- The events below `/app/src` with those exclusions. -/
def belowApp (exclude : List ExcludeRule) : EventFilter :=
  ⟨⟨⟨"/app/src"⟩, ["ts", "tsx", "mts", "cts"], exclude⟩, ⟨"/app/src/schema.prisma"⟩⟩

/-- A directory of models that moves away, next to excluded parts and tests. -/
theorem mem_qualifying_of_models :
    let filter := belowApp [.part "node_modules", .pattern [.anySequence, .literal '_', .anyChar]]
    ⟨"/app/src/models"⟩ ∈ filter.qualifying (.event (.modify .name) [⟨"/app/src/models"⟩]) :=
  (mem_qualifying_iff_of_accepts _ (by decide) (by decide) (by decide +kernel)
    (by decide +kernel) (by decide +kernel)
    (Path.continues_of_isPrefix (p := ⟨"/app/src/models/member.ts"⟩) (by decide +kernel)
      (by decide +kernel) (by decide +kernel))
    (by decide +kernel)
    (by
      intro tokens h
      simp only [belowApp, List.mem_cons, reduceCtorEq, ExcludeRule.pattern.injEq, List.not_mem_nil,
        or_false, false_or] at h
      subst h
      decide +kernel)).2 (.inl (by decide +kernel))

/-- Whether a directory below the root, other than the schema, holds a source file and yet
disappears without a pass. -/
def Overlooks (filter : EventFilter) (d f : Path) : Prop :=
  d.startsWith filter.source.root ∧ ¬ d.same filter.source.root ∧ ¬ d.same filter.output ∧
    f.startsWith d ∧ filter.source.accepts f ∧ d ∉ filter.qualifying (.event .remove [d])

instance (filter : EventFilter) (d f : Path) : Decidable (filter.Overlooks d f) :=
  inferInstanceAs (Decidable (_ ∧ _ ∧ _ ∧ _ ∧ _ ∧ _))

/-- A directory is overlooked for an extension of another kind in its name, for a pattern for the
directory alone, and for an excluded text that only the way it is written shows. -/
theorem overlooks_directories :
    (belowApp []).Overlooks ⟨"/app/src/models.v2"⟩ ⟨"/app/src/models.v2/member.ts"⟩ ∧
    (belowApp [.pattern (.anyDirectories :: "legacy".toList.map .literal)]).Overlooks
      ⟨"/app/src/legacy"⟩ ⟨"/app/src/legacy/member.ts"⟩ ∧
    (belowApp [.part "//"]).Overlooks ⟨"/app/src/a//b"⟩ ⟨"/app/src/a/b/member.ts"⟩ := by
  decide +kernel

end EventFilter

end ModelSchema
