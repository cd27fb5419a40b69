import ModelSchema.Pass
import ModelSchema.Watch.Debouncer

/-!
# Watch sessions

A session runs a first pass and then one for every settled change, until the watcher goes away. A
pass that fails ends itself and not the session.

## Main definitions

* `Session`, `Session.ofSettings` — the settings of a session and what decides about its events.
* `Session.start`, `Session.pass` — the first pass and the ones behind it.
* `Session.isStable` — whether a file that is looked at again and again settles.
-/

namespace ModelSchema

/-- The settings of a session, and what decides about the reports of the watcher. -/
structure Session where
  settings : Settings
  filter : EventFilter
deriving DecidableEq, Repr

namespace Session

/-! ## Files that are still being written -/

/-- The most often a file that keeps changing is looked at. -/
def maxStabilityChecks : Nat := 20

/-- A reading of a file: its size and the time of its last change, if it is there. -/
abbrev Reading := Option (Nat × Nat)

/-- Whether two consecutive readings agree, `last` being the first one. -/
def agree (last : Reading) : List Reading → Bool
  | [] => false
  | r :: rest => r == last || agree r rest

/-- Whether a file settles: two consecutive readings agree before the limit. -/
def isStable (first : Reading) (readings : List Reading) : Bool :=
  agree first (readings.take maxStabilityChecks)

/-! ## Passes -/

/-- A session for a tree. A watcher reports absolute paths, so the source directory and the schema
are named by such paths where they are there already. -/
def ofSettings (s : Settings) (t : FileTree) : Except Failure Session := do
  let root := (t.canonical? s.source.root).getD s.source.root
  let source ← SourceDirectory.ofSettings { s.source with root }
  return ⟨s, ⟨source, (t.canonical? s.output.path).getD s.output.path⟩⟩

/-- Whether there is a source directory to watch. -/
def canWatch (session : Session) (t : FileTree) : Bool := t.pathExists session.filter.source.root

/-- A pass of the session, and the tree that it leaves. -/
def pass (session : Session) (t : FileTree) (time : Timestamp) :
    Except Failure PassReport × FileTree :=
  runPass session.settings t (session.filter.source.files t) time

/-- A session and the tree after its first pass. -/
def start (s : Settings) (t : FileTree) (time : Timestamp) :
    Except Failure (Session × FileTree) := do
  let session ← ofSettings s t
  return (session, (session.pass t time).2)

end Session

end ModelSchema
