import ModelSchema.Analysis
import ModelSchema.Proofs.Registry.Insertion
import ModelSchema.Proofs.Registry.Pairing

/-!
# Accounts of an analysis

What an analysis says about a list of files can be told from the models that the readable ones
declare, one after the other, and from the files that cannot be read.

## Main definitions

* `declaredModels`, `unreadableFiles` — the two parts of a list of files.
* `Scan.ofParts` — what is found in them.

## Main statements

* `scanFiles_eq` — a list of files is scanned part by part.
* `analyze_accounts` — every file and every declared model is accounted for.
-/

namespace ModelSchema

/-- The models that the readable files declare, in order. -/
def declaredModels (models : ModelSettings) (files : List SourceFile) : List Model :=
  files.flatMap fun f =>
    match f.text with
    | .ok text => extract models f.path text
    | .error _ => []

/-- The files that cannot be read, in order, and why. -/
def unreadableFiles (files : List SourceFile) : List (Path × String) :=
  files.filterMap fun f =>
    match f.text with
    | .ok _ => none
    | .error failure => some (f.path, failure.message)

theorem declaredModels_append (models : ModelSettings) (front back : List SourceFile) :
    declaredModels models (front ++ back) =
      declaredModels models front ++ declaredModels models back := by
  rw [declaredModels, List.flatMap_append, declaredModels, declaredModels]

theorem unreadableFiles_append (front back : List SourceFile) :
    unreadableFiles (front ++ back) = unreadableFiles front ++ unreadableFiles back := by
  rw [unreadableFiles, List.filterMap_append, unreadableFiles, unreadableFiles]

theorem declaredModels_cons_error (models : ModelSettings) (path : Path) (failure : Failure)
    (files : List SourceFile) :
    declaredModels models (⟨path, .error failure⟩ :: files) = declaredModels models files := by
  simp [declaredModels]

theorem unreadableFiles_cons_error (path : Path) (failure : Failure) (files : List SourceFile) :
    unreadableFiles (⟨path, .error failure⟩ :: files) =
      (path, failure.message) :: unreadableFiles files := by
  simp [unreadableFiles]

namespace Scan

/-- The scan that found these models and passed over these files. -/
def ofParts (declared : List Model) (failures : List (Path × String)) : Scan where
  registry := Registry.empty.insertAll declared
  failures := failures
  duplicates := repetitions (declared.map (·.name))

variable {declared : List Model} {failures : List (Path × String)}

theorem model_ofParts (m : Model) :
    (ofParts declared failures).model m = ofParts (declared ++ [m]) failures := by
  simp only [model, ofParts, Registry.insertAll_concat, Registry.contains_insertAll,
    List.map_append, List.map_singleton, repetitions_concat]
  by_cases h : m.name ∈ declared.map (·.name) <;> simp [h]

/-- The models of one file come behind those of the files before it. -/
theorem foldl_model_ofParts (ms : List Model) :
    ms.foldl model (ofParts declared failures) = ofParts (declared ++ ms) failures := by
  induction ms generalizing declared with
  | nil => rw [List.foldl_nil, List.append_nil]
  | cons m ms ih =>
    rw [List.foldl_cons, model_ofParts, ih, List.append_assoc, List.singleton_append]

/-- A file adds its models, or itself to the ones passed over. -/
theorem file_ofParts (models : ModelSettings) (f : SourceFile) :
    (ofParts declared failures).file models f =
      ofParts (declared ++ declaredModels models [f]) (failures ++ unreadableFiles [f]) := by
  cases h : f.text with
  | ok text => simp [file, h, foldl_model_ofParts, declaredModels, unreadableFiles]
  | error failure => simp [file, h, declaredModels, unreadableFiles, ofParts]

end Scan

/-- A list of files is scanned file by file. -/
theorem scanFiles_eq (models : ModelSettings) (files : List SourceFile) :
    scanFiles models files =
      Scan.ofParts (declaredModels models files) (unreadableFiles files) := by
  induction files using List.reverseRecOn with
  | nil => rfl
  | append_singleton files f ih =>
    rw [scanFiles, List.foldl_append, List.foldl_cons, List.foldl_nil]
    change (scanFiles models files).file models f = _
    rw [ih, Scan.file_ofParts, declaredModels_append, unreadableFiles_append]

/-- An analysis in terms of the two parts of a list of files. -/
theorem analyze_eq (models : ModelSettings) (files : List SourceFile) :
    analyze models files =
      let declared := declaredModels models files
      let resolved := (Registry.empty.insertAll declared).resolve models.excludedSuffixes
      ⟨resolved.1, files.length, unreadableFiles files, repetitions (declared.map (·.name)),
        resolved.2⟩ := by
  unfold analyze
  rw [scanFiles_eq]
  rfl

/-- An analysis accounts for everything in a list of files. Each name has the place at which it
was declared first and the model that was declared last; every model declared again is listed, and
so is every file that cannot be read. Such a file, wherever it is put, is counted and listed and
changes nothing else. -/
theorem analyze_accounts (models : ModelSettings) (files : List SourceFile) :
    let declared := declaredModels models files
    let scanned := (scanFiles models files).registry
    let a := analyze models files
    (a.registry, a.relations) = scanned.resolve models.excludedSuffixes ∧
    (∀ name, scanned.get? name = (declared.filter (·.name == name)).getLast?) ∧
    a.registry.names = (declared.map (·.name)).eraseDups ∧
    a.duplicates = repetitions (declared.map (·.name)) ∧
    a.failures = unreadableFiles files ∧
    a.filesScanned = files.length ∧
    a.registry.size + a.duplicates.length = declared.length ∧
    ∀ n path failure,
      analyze models (files.take n ++ ⟨path, .error failure⟩ :: files.drop n) =
        { a with
          filesScanned := files.length + 1
          failures := unreadableFiles (files.take n) ++
            (path, failure.message) :: unreadableFiles (files.drop n) } := by
  intro declared scanned a
  have parts : a = _ := analyze_eq models files
  have names : a.registry.names = (declared.map (·.name)).eraseDups := by
    rw [parts]
    exact (Registry.names_resolve _ _).trans (Registry.names_insertAll declared)
  have duplicates : a.duplicates = repetitions (declared.map (·.name)) := by rw [parts]
  refine ⟨rfl, ?_, names, duplicates, by rw [parts], rfl, ?_, ?_⟩
  · intro name
    change (scanFiles models files).registry.get? name = _
    rw [scanFiles_eq]
    exact Registry.get?_insertAll declared name
  · have size : a.registry.size = a.registry.names.length := by
      simp [Registry.size, Registry.names]
    rw [size, names, duplicates, length_eraseDups_add_length_repetitions, List.length_map]
  · intro n path failure
    have same : declaredModels models (files.take n ++ ⟨path, .error failure⟩ :: files.drop n) =
        declared := by
      rw [declaredModels_append, declaredModels_cons_error, ← declaredModels_append,
        List.take_append_drop]
    have more : (files.take n ++ ⟨path, .error failure⟩ :: files.drop n).length =
        files.length + 1 := by
      rw [List.length_append, List.length_cons, ← Nat.add_assoc, ← List.length_append,
        List.take_append_drop]
    rw [analyze_eq, same, more, unreadableFiles_append, unreadableFiles_cons_error, parts]

end ModelSchema
