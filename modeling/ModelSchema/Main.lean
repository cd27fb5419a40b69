import ModelSchema.CommandLine.Execution
import ModelSchema.Watch.Changes
import Std.Time.DateTime.Timestamp

/-!
# The program

The tree below the working directory is read, the command line is carried out on it, and what
differs then is written back. A watching command goes on with readings at regular intervals.

## Main definitions

* `Program.readTree`, `Program.writeChanges` — the way from the disk and back.
* `Program.watch` — the passes behind the first one.
* `main` — the program.
-/

namespace ModelSchema.Program

/-- The present moment. -/
def now : IO Timestamp := do
  let nanoseconds := (← Std.Time.Timestamp.now).toNanosecondsSinceUnixEpoch.toInt
  return ⟨nanoseconds.fdiv 1000000000, (nanoseconds.fmod 1000000000).toNat⟩

/-- The nodes at and below an entry of a directory. A symbolic link to a place below the working
directory `base` stays one; any other is read as what it leads to. What cannot be read is left
out. -/
partial def nodesAt (base : String) (above : List String) (place : Location)
    (entry : IO.FS.DirEntry) : IO (List (Location × FileNode)) := do
  try
    let real ← IO.FS.realPath entry.path
    let isLink := (← entry.path.symlinkMetadata).type == .symlink
    match if isLink then (base ++ "/").toList.isPrefixOf? real.toString.toList else none with
    | some target => return [(place, .link ("/" ++ String.ofList target))]
    | none =>
      match (← real.metadata).type with
      | .dir =>
        if above.contains real.toString then return []
        let below ← (← real.readDir).toList.mapM fun e =>
          nodesAt base (real.toString :: above) (place ++ [e.fileName]) e
        return (place, .directory) :: below.flatten
      | .file => return [(place, .file (← IO.FS.readBinFile real))]
      | _ => return []
  catch _ => return []

/-- The tree below the working directory. -/
def readTree : IO FileTree := do
  let base ← IO.FS.realPath "."
  let nodes ← (← base.readDir).toList.mapM fun e =>
    nodesAt base.toString [base.toString] [e.fileName] e
  return ⟨nodes.flatten⟩

/-- What differs between two trees written to the disk. A file appears under its name only when it
is complete. -/
def writeChanges (before after : FileTree) : IO Unit := do
  for (place, _) in before.nodes do
    if (after.get? place).isNone then IO.FS.removeFile ("/".intercalate place)
  for (place, node) in after.nodes do
    unless (before.get? place).any node.same do
      let path := "/".intercalate place
      match node with
      | .directory => IO.FS.createDirAll path
      | .file content =>
        let staging := (Schema.stagingPath ⟨path⟩).text
        IO.FS.writeBinFile staging content
        IO.FS.rename staging path
      | .link _ => pure ()

/-- The passes of a session behind its first one: what changed between two readings of the disk
goes to the debouncer, and a pass that it asks for is run at once. -/
partial def watch (session : Session) (known : FileTree) (debouncer : Debouncer) (slot : Slot) :
    IO Unit := do
  IO.sleep session.settings.watch.debounce.toUInt32
  let tree ← readTree
  let inputs := match known.changes tree with
    | [] => [.quiet]
    | events => events.map .event
  let (debouncer, slot) := Debouncer.steps session.filter debouncer slot inputs
  match slot.poll with
  | (.pass, slot) =>
    let (result, after) := session.pass tree (← now)
    writeChanges tree after
    match result with
    | .ok report => IO.eprintln report.summary
    | .error failure => IO.eprintln failure.message
    watch session after debouncer slot
  | (.finished, _) => return
  | (.nothing, slot) => watch session tree debouncer slot

end ModelSchema.Program

open ModelSchema in
/-- The program with its arguments; the result is its exit code. -/
def main (arguments : List String) : IO UInt32 := do
  let tree ← Program.readTree
  let e := CommandLine.invoke tree (← Program.now) arguments
  Program.writeChanges tree e.tree
  IO.print e.output
  if let some text := e.complaint then IO.eprintln text
  if let some session := e.session then Program.watch session e.tree .idle {}
  return e.code.toUInt32
