import ModelSchema.FileTree
import ModelSchema.Schema.Document

/-!
# Storing the schema

The schema is first written under a staging path next to its own and then moved into place, so
that a failure leaves the file that was there before. A schema that differs from the stored one
only in its time is not written at all.

## Main definitions

* `Schema.stagingPath` — where the text is written first.
* `Schema.StoreFaults` — the steps that fail for a reason outside the tree.
* `Schema.store` — the tree with the schema, and what was done.
-/

namespace ModelSchema.Schema

/-- What storing did. -/
inductive StoreOutcome where
  | written
  /-- The stored text has the same fingerprint. -/
  | unchanged
deriving DecidableEq, Repr

/-- Where the text is written first: next to the path, under its file name with a suffix. -/
def stagingPath (p : Path) : Path := p.withFileName (p.fileName?.getD "" ++ ".tmp")

/-- The steps that fail for a reason outside the tree; by default none does. -/
structure StoreFaults where
  read : Option IoFault := none
  makeDirectory : Path → Option IoFault := fun _ => none
  /-- The staging file cannot be opened, so it stays as it is. -/
  openStaging : Option IoFault := none
  /-- Writing the staging file fails after that many bytes. -/
  stage : Option (Nat × IoFault) := none
  rename : Option IoFault := none
  removeStaging : Option IoFault := none

/-- Whether the stored text differs from `text` in its time at most. -/
def isStored (faults : StoreFaults) (t : FileTree) (p : Path) (text : String) : Bool :=
  match faults.read, t.readText p with
  | none, .ok existing => fingerprint existing == fingerprint text
  | _, _ => false

/-- The tree with the directories above a path, or with those of them that could be made. -/
def makeParents (faults : StoreFaults) (t : FileTree) (p : Path) :
    Except (IoFault × FileTree) FileTree :=
  match p.parent? with
  | none => .ok t
  | some above => if above.text = "" then .ok t else t.makeDirectories above faults.makeDirectory

/-- The tree with the text under the staging path, or with as much of it as was written. -/
def stage (faults : StoreFaults) (t : FileTree) (staging : Path) (text : String) :
    Except (IoFault × FileTree) FileTree :=
  match faults.openStaging, faults.stage with
  | some fault, _ => .error (fault, t)
  | none, some (n, fault) =>
    match t.write staging (text.toUTF8.extract 0 n) with
    | .ok t => .error (fault, t)
    | .error fault => .error (fault, t)
  | none, none => (t.write staging text.toUTF8).mapError (·, t)

/-- The tree with the staging file moved to its path. If that fails the staging file is removed,
as far as this succeeds. -/
def moveIntoPlace (faults : StoreFaults) (t : FileTree) (staging p : Path) :
    Except (IoFault × FileTree) FileTree :=
  let moved : Except IoFault FileTree := match faults.rename, t.find false staging with
    | some fault, _ => .error fault
    | none, .ok (.node place _) => t.rename place p
    | none, .ok (.free _ _) => .error .notFound
    | none, .error fault => .error fault
  match moved with
  | .ok t => .ok t
  | .error fault =>
    match faults.removeStaging, t.removeFile staging with
    | none, .ok cleaned => .error (fault, cleaned)
    | _, _ => .error (fault, t)

/-- The tree with the schema under its path, and what was done. A failure comes with the tree that
it leaves. -/
def store (t : FileTree) (p : Path) (text : String) (faults : StoreFaults := {}) :
    Except Failure StoreOutcome × FileTree :=
  if isStored faults t p text then (.ok .unchanged, t)
  else
    let staging := stagingPath p
    let result := do
      let t ← makeParents faults t p
      let t ← stage faults t staging text
      moveIntoPlace faults t staging p
    match result with
    | .ok t => (.ok .written, t)
    | .error (fault, t) => (.error (.outputWrite p fault), t)

end ModelSchema.Schema
