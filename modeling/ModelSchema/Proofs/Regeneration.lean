import ModelSchema.Pass
import ModelSchema.Proofs.Schema.Recovery
import ModelSchema.Proofs.Schema.Store

/-!
# Regeneration

A second pass over the same sources finds the schema of the first one, recovers its preamble,
renders the same document but for the time, and leaves the file alone.

## Main statements

* `runPass_twice` — after one pass the schema is a fixed point.
-/

namespace ModelSchema

open Text FileTree

/-- A pass that succeeds has stored its document. -/
theorem store_of_runPass {s : Settings} {t t' : FileTree} {files : List SourceFile}
    {time : Timestamp} {report : PassReport} (h : runPass s t files time = (.ok report, t')) :
    Schema.store t s.output.path (generate s t files time).text = (.ok report.outcome, t') := by
  obtain ⟨⟨stored, left⟩, hs⟩ : ∃ result, Schema.store t s.output.path
      (generate s t files time).text = result := ⟨_, rfl⟩
  simp only [runPass, hs, Prod.mk.injEq] at h
  obtain ⟨mapped, rfl⟩ := h
  cases stored with
  | error failure => cases mapped
  | ok outcome => rw [hs, ← Except.ok.inj mapped]

/-- A pass stores its document and reports what that did and where the preamble came from. -/
theorem exists_runPass_of_store {s : Settings} {t t' : FileTree} {files : List SourceFile}
    {time : Timestamp} {outcome : Schema.StoreOutcome}
    (h : Schema.store t s.output.path (generate s t files time).text = (.ok outcome, t')) :
    ∃ report, runPass s t files time = (.ok report, t') ∧ report.outcome = outcome ∧
      report.preamble = (generate s t files time).preamble := by
  unfold runPass
  simp only [h]
  exact ⟨_, rfl, rfl, rfl⟩

/-- The lines of the blocks that sources give are single lines. -/
theorem isLine_of_mem_analyze {models : ModelSettings} {files : List SourceFile}
    (names : (analyze models files).registry.HasLineNames) (includeDocs : Bool) :
    ∀ b ∈ (analyze models files).registry.blocks includeDocs, ∀ l ∈ b.lines,
      IsLine l.toList :=
  Registry.HasLineNames.isLine_of_mem_blocks (r := (scanFiles models files).registry) names
    includeDocs

/-- If one pass succeeds, a second one over the same sources renders a document that differs from
the first one in its line with the time and nowhere else, and reports that nothing changed. -/
theorem runPass_twice (s : Settings) (t t' : FileTree) (files : List SourceFile)
    (time time' : Timestamp) (report : PassReport)
    (provider : IsLine s.output.provider.toList)
    (urlVariable : IsLine s.output.urlVariable.toList)
    (names : (analyze s.models files).registry.HasLineNames)
    (unlinked : Schema.IsUnlinked t s.output.path)
    (first : runPass s t files time = (.ok report, t')) :
    (∃ before after : String,
      (generate s t files time).text =
        before ++ "\n" ++ (Schema.timePrefix ++ time.render) ++ "\n" ++ after ∧
      (generate s t' files time').text =
        before ++ "\n" ++ (Schema.timePrefix ++ time'.render) ++ "\n" ++ after) ∧
    ∃ report', runPass s t' files time' = (.ok report', t') ∧
      report'.outcome = .unchanged := by
  let preamble (t : FileTree) : String :=
    (Preamble.load s.output.preservePreamble s.output.provider s.output.urlVariable
      (t.readText s.output.path).toOption).text
  have text : ∀ (t : FileTree) (time : Timestamp), (generate s t files time).text =
      Schema.document (analyze s.models files).registry s.output.includeDocs (preamble t) time :=
    fun _ _ => rfl
  have lines := isLine_of_mem_analyze names s.output.includeDocs
  have stored := store_of_runPass first
  -- Whether the first pass wrote or not, the second one gives its preamble the same lines, and the
  -- fingerprint of what it finds is that of the first document.
  obtain ⟨same, existing, found, marked⟩ :
      trimLines (trimEnd (preamble t').toList) = trimLines (trimEnd (preamble t).toList) ∧
      ∃ existing, t'.readText s.output.path = .ok existing ∧
        Schema.fingerprint existing = Schema.fingerprint (generate s t files time).text := by
    cases outcome : report.outcome with
    | unchanged =>
      rw [outcome, Schema.store_unchanged_iff] at stored
      obtain ⟨rfl, stored⟩ := stored
      exact ⟨rfl, stored⟩
    | written =>
      rw [outcome] at stored
      have found := Schema.readText_of_store_written unlinked stored
      refine ⟨?_, _, found, rfl⟩
      have again := Preamble.trimLines_load lines time provider urlVariable
        s.output.preservePreamble (t.readText s.output.path).toOption
      simp only [preamble, found, Except.toOption, text]
      exact again
  refine ⟨⟨_, _, (text t time).trans (Schema.document_eq_append ..), ?_⟩, ?_⟩
  · rw [text, Schema.document_eq_append, same]
  · have again : Schema.fingerprint existing =
        Schema.fingerprint (generate s t' files time').text := by
      rw [marked, text, text]
      exact Schema.fingerprint_document same.symm _ _ _ _
    obtain ⟨report', second, unchanged, -⟩ :=
      exists_runPass_of_store (Schema.store_unchanged_iff.2 ⟨rfl, existing, found, again⟩)
    exact ⟨report', second, unchanged⟩

/-- A schema that a user wrote: a configuration block, and a model that no source declares. -/
def userSchema : String :=
  "generator client \x7b\n  provider = \"prisma-client-js\"\n" ++
  "  output   = \"../client\"\n\x7d\n\nmodel Member \x7b\n  id Int @id\n\x7d\n"

/-- A project with that schema, and with a symbolic link to the directory that it stands in. -/
def userTree : FileTree :=
  ⟨[(["prisma"], .directory), (["prisma", "schema.prisma"], .file userSchema.toUTF8),
    (["latest"], .link "prisma")]⟩

/-- Two passes over a source that cannot be read, one minute apart: the first one preserves the
user's configuration block, and the second one changes nothing. -/
theorem runPass_twice_userSchema :
    let member : SourceFile :=
      ⟨⟨"src/member.ts"⟩, .error (.fileRead ⟨"src/member.ts"⟩ "Permission denied")⟩
    ∃ report t' report',
      runPass {} userTree [member] ⟨0, 0⟩ = (.ok report, t') ∧ report.preamble = .preserved ∧
      runPass {} t' [member] ⟨60, 0⟩ = (.ok report', t') ∧ report'.outcome = .unchanged := by
  intro member
  let path : Path := ⟨"prisma/schema.prisma"⟩
  have directory : userTree.LeadsTo ⟨"prisma"⟩ [] "prisma" :=
    leadsTo_of_rawSegments (by decide +kernel) (by decide +kernel) (by decide +kernel)
  have leads : userTree.LeadsTo path ["prisma"] "schema.prisma" :=
    directory.below rfl (by decide +kernel) (by decide +kernel) (by decide +kernel)
  have leads' : userTree.LeadsTo (Schema.stagingPath path) ["prisma"] "schema.prisma.tmp" := by
    have staging : Schema.stagingPath path = ⟨"prisma/schema.prisma.tmp"⟩ := by decide +kernel
    rw [staging]
    exact directory.below rfl (by decide +kernel) (by decide +kernel) (by decide +kernel)
  have stands : userTree.get? ["prisma", "schema.prisma"] = some (.file userSchema.toUTF8) := rfl
  have free : userTree.get? ["prisma", "schema.prisma.tmp"] = none := rfl
  have read : userTree.readText path = .ok userSchema := readText_of_leadsTo leads stands
  have parents : Schema.makeParents {} userTree path = .ok userTree := by
    have above : path.parent? = some ⟨"prisma"⟩ := by decide +kernel
    rw [Schema.makeParents, above]
    exact directory.makeDirectories rfl
  have unlinked : Schema.IsUnlinked userTree path :=
    Schema.isUnlinked_of_readText parents (.inr ⟨userSchema, read⟩)
      (leads'.isNoLink (by simp [free]))
  have noWay : ∀ node, IsWay node → userTree.get? ["prisma", "schema.prisma"] ≠ some node := by
    intro node way found
    obtain rfl := Option.some.inj (stands.symm.trans found)
    exact way
  obtain ⟨t', stored⟩ := Schema.exists_store parents leads noWay leads' (by simp [free])
    (generate {} userTree [member] ⟨0, 0⟩).text
  obtain ⟨report, first, -, origin⟩ := exists_runPass_of_store (s := {}) stored
  have preserved : (generate {} userTree [member] ⟨0, 0⟩).preamble = .preserved := by
    change (Preamble.load true _ _ (userTree.readText path).toOption).origin = _
    rw [read]
    decide +kernel
  have names : (analyze {} [member]).registry.HasLineNames :=
    fun _ hm => absurd hm List.not_mem_nil
  obtain ⟨-, report', second, unchanged⟩ :=
    runPass_twice {} userTree t' [member] ⟨0, 0⟩ ⟨60, 0⟩ report (by decide) (by decide) names
      unlinked first
  exact ⟨report, t', report', first, origin.trans preserved, second, unchanged⟩

end ModelSchema
