import ModelSchema.Proofs.Schema.Store
import ModelSchema.Proofs.Watch.Directories

/-!
# Writes that ask for no pass

A pass writes two files: the staging file and the schema. The schema is told by its path. The
staging file is told by its name: it ends in an extension of its own, so it is no source file
unless that extension is one of theirs, and it never looks like a directory.

## Main definitions

* `WatchEvent.paths` — the paths of a report.

## Main statements

* `Path.extensionOf?_append` — the extension of a name that something was put behind.
* `Schema.extension?_of_same_stagingPath` — the extension of the staging path.
* `EventFilter.ownWrites_not_qualifying` — a report of what a pass writes asks for no pass.
-/

namespace ModelSchema

namespace Path

variable {p q : Path}

/-! ## Extensions -/

/-- What is put behind a name with a point is its extension. -/
theorem extensionOf?_append {name ext : List Char} (named : name ≠ []) (point : '.' ∉ ext) :
    extensionOf? (name ++ '.' :: ext) = some ext := by
  have letters : ∀ c ∈ ext.reverse, (c != '.') = true := by
    intro c hc
    have other : c ≠ '.' := by
      rintro rfl
      exact point (List.mem_reverse.1 hc)
    simpa using other
  have reversed : (name ++ '.' :: ext).reverse = ext.reverse ++ '.' :: name.reverse := by simp
  obtain ⟨c, cs, hname⟩ := List.exists_cons_of_ne_nil (List.reverse_ne_nil_iff.2 named)
  rw [extensionOf?, reversed, List.dropWhile_append_of_pos letters,
    List.takeWhile_append_of_pos letters, hname]
  simp

/-- Paths with the same components have the same extension. -/
theorem extension?_of_same (h : p.same q) : p.extension? = q.extension? := by
  have components : p.components = q.components := by simpa [same] using h
  rw [extension?, extension?, fileName?, fileName?, components]

end Path

namespace Schema

open ModelSchema.Path

variable {p output : Path}

/-- The staging path ends in an extension of its own. -/
theorem extension?_of_same_stagingPath (named : output.fileName?.isSome)
    (h : p.same (stagingPath output)) : p.extension? = some "tmp" := by
  obtain ⟨name, hname⟩ := Option.isSome_iff_exists.1 named
  obtain ⟨before, segments⟩ := exists_rawSegments_stagingPath output
  have fileName : (stagingPath output).fileName? = some (name ++ ".tmp") := by
    have last := fileName?_of_rawSegments segments (stagingName_nontrivial output)
      (stagingName_ne output (by decide))
    simpa [stagingName, hname] using last
  have text : (name ++ ".tmp").toList = name.toList ++ '.' :: "tmp".toList := by simp
  have ext : extensionOf? (name.toList ++ '.' :: "tmp".toList) = some "tmp".toList :=
    extensionOf?_append (fileName?_ne_nil hname) (by decide)
  rw [extension?_of_same h, extension?, fileName, Option.bind_some, text, ext]
  rfl

end Schema

/-- The paths of a report. -/
def WatchEvent.paths : WatchEvent → List Path
  | .problem => []
  | .event _ paths => paths

namespace EventFilter

variable {filter : EventFilter} {p : Path} {kind : EventKind}

theorem qualifying_sublist (filter : EventFilter) (event : WatchEvent) :
    (filter.qualifying event).Sublist event.paths := by
  cases event with
  | problem => exact List.Sublist.refl []
  | event kind paths =>
    simp only [qualifying]
    split
    · exact List.filter_sublist
    · exact List.nil_sublist paths

theorem exists_asksForPass_of_mem {event : WatchEvent} (h : p ∈ filter.qualifying event) :
    ∃ kind, filter.asksForPass kind p := by
  cases event with
  | problem => cases h
  | event kind paths => exact ⟨kind, (filter.mem_qualifying_iff.1 h).2.2⟩

/-- What asks for a pass is not the schema, and is a source file or may be a directory. -/
theorem asksForPass_cases (h : filter.asksForPass kind p) :
    ¬ p.same filter.output ∧
      (filter.source.HasSourceExtension p ∨ p.extension? = none) := by
  simp only [asksForPass, Bool.and_eq_true, Bool.or_eq_true, Bool.not_eq_true',
    SourceDirectory.accepts_iff, SourceDirectory.mayContain_iff] at h
  obtain ⟨other, ⟨source, -⟩ | ⟨-, -, -, directory, -⟩⟩ := h
  · exact ⟨by simp [other], .inl source⟩
  · exact ⟨by simp [other], .inr directory⟩

/-- A pass never asks for another one: unless the extension of the staging file is one of source
files, a report of any kind asks for a pass neither for the schema nor for its staging file, and
the paths that ask for one are some of those reported, in their order. -/
theorem ownWrites_not_qualifying (filter : EventFilter)
    (extensions : ∀ ext ∈ filter.source.extensions, ¬ Text.sameIgnoringAsciiCase ext "tmp")
    (named : filter.output.fileName?.isSome) (event : WatchEvent) :
    (∀ p ∈ filter.qualifying event,
      ¬ p.same filter.output ∧ ¬ p.same (Schema.stagingPath filter.output)) ∧
    (filter.qualifying event).Sublist event.paths := by
  refine ⟨fun p hp => ?_, filter.qualifying_sublist event⟩
  obtain ⟨kind, asks⟩ := exists_asksForPass_of_mem hp
  obtain ⟨other, source | directory⟩ := asksForPass_cases asks
  · refine ⟨other, fun staging => ?_⟩
    obtain ⟨e, he, ext, hext, agrees⟩ := source
    rw [Schema.extension?_of_same_stagingPath named staging] at he
    obtain rfl := Option.some.inj he
    refine extensions ext hext ?_
    rw [Text.sameIgnoringAsciiCase, beq_iff_eq] at agrees ⊢
    exact agrees.symm
  · refine ⟨other, fun staging => ?_⟩
    rw [Schema.extension?_of_same_stagingPath named staging] at directory
    cases directory

/-- A hidden schema without an extension among the sources, whose path and that of whose staging
file are written in another way where they are reported. -/
theorem ownWrites_not_qualifying_hidden :
    let filter : EventFilter := ⟨⟨⟨"/app/src"⟩, ["ts", "TS", "mp"], []⟩, ⟨"/app/src/.schema"⟩⟩
    let event : WatchEvent := .event .create
      [⟨"/app/src//.schema"⟩, ⟨"/app/src/./.schema.tmp"⟩, ⟨"/app/src/member.ts"⟩]
    (∀ ext ∈ filter.source.extensions, ¬ Text.sameIgnoringAsciiCase ext "tmp") ∧
      filter.output.fileName?.isSome ∧ filter.qualifying event = [⟨"/app/src/member.ts"⟩] ∧
      ¬ (⟨"/app/src/member.ts"⟩ : Path).same (Schema.stagingPath filter.output) := by
  intro filter event
  have extensions : ∀ ext ∈ filter.source.extensions,
      ¬ Text.sameIgnoringAsciiCase ext "tmp" := by decide +kernel
  have named : filter.output.fileName?.isSome := by decide +kernel
  have qualifying : filter.qualifying event = [⟨"/app/src/member.ts"⟩] := by decide +kernel
  obtain ⟨own, -⟩ := ownWrites_not_qualifying filter extensions named event
  refine ⟨extensions, named, qualifying, (own _ ?_).2⟩
  rw [qualifying]
  exact List.mem_singleton_self _

end EventFilter

end ModelSchema
