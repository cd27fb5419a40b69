import ModelSchema.FileTree
import ModelSchema.Watch.EventFilter

/-!
# Changes between two readings of a tree

A watcher that reads the tree again and again reports what differs from the reading before.

## Main definitions

* `FileTree.changes` — the events between two readings.
-/

namespace ModelSchema

namespace FileNode

/-- Whether two nodes are the same file, directory or symbolic link. -/
def same : FileNode → FileNode → Bool
  | .file a, .file b => a == b
  | .directory, .directory => true
  | .link a, .link b => a == b
  | _, _ => false

end FileNode

namespace FileTree

/-- The events between two readings of a tree: what disappeared, then what appeared or changed. -/
def changes (before after : FileTree) : List WatchEvent :=
  (before.nodes.filterMap fun (place, _) =>
    if (after.get? place).isNone then some (.event .remove [pathOf place]) else none) ++
  after.nodes.filterMap fun (place, node) =>
    match before.get? place with
    | none => some (.event .create [pathOf place])
    | some old => if old.same node then none else some (.event (.modify .data) [pathOf place])

end FileTree

end ModelSchema
