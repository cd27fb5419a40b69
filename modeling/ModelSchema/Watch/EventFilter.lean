import ModelSchema.Source

/-!
# Events that ask for a pass

A watcher reports changes below the source directory. Those of source files ask for a pass, and so
do the appearance, disappearance and renaming of what may be a directory of them; the schema itself
never does.

## Main definitions

* `EventKind`, `WatchEvent` — the reports of a watcher.
* `EventFilter.qualifying` — the paths of a report that ask for a pass.
-/

namespace ModelSchema

/-- What was modified. -/
inductive ModifyKind where
  | any
  | data
  | metadata
  | name
  | other
deriving DecidableEq, Repr

/-- What happened to the paths of an event. -/
inductive EventKind where
  | any
  | access
  | create
  | modify (kind : ModifyKind)
  | remove
  | other
deriving DecidableEq, Repr

namespace EventKind

/-- Whether a directory may have appeared, disappeared or moved. -/
def isStructural : EventKind → Bool
  | .create | .remove | .modify .name => true
  | _ => false

/-- Whether the content of the paths may have changed. -/
def isChange : EventKind → Bool
  | .modify .metadata => false
  | .create | .modify _ | .remove => true
  | _ => false

end EventKind

/-- A report of a watcher. -/
inductive WatchEvent where
  | event (kind : EventKind) (paths : List Path)
  /-- The watcher had a problem of its own. -/
  | problem
deriving DecidableEq, Repr

/-- What decides about the reports of a watcher: the sources and the path of the schema. -/
structure EventFilter where
  source : SourceDirectory
  output : Path
deriving DecidableEq, Repr

namespace EventFilter

/-- Whether a path of an event of that kind asks for a pass. -/
def asksForPass (f : EventFilter) (kind : EventKind) (p : Path) : Bool :=
  !p.same f.output && (f.source.accepts p || (kind.isStructural && f.source.mayContain p))

/-- The paths of a report that ask for a pass. -/
def qualifying (f : EventFilter) : WatchEvent → List Path
  | .problem => []
  | .event kind paths => if kind.isChange then paths.filter (f.asksForPass kind) else []

end EventFilter

end ModelSchema
