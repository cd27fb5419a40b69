import ModelSchema.FileTree
import ModelSchema.Settings
import ModelSchema.Text.LowerCase

/-!
# Sources

Which files feed a pass: those below a root directory that have one of the extensions and are not
excluded by what their path below the root looks like.

## Main definitions

* `ExcludeRule` — a part of a path or a pattern for one.
* `SourceDirectory` — a root with extensions and exclusions.
* `SourceDirectory.accepts`, `SourceDirectory.mayContain` — the decision about a path.
* `SourceDirectory.discover` — the accepted files of a tree, in order.
* `SourceFile` — a file handed to a pass.
-/

namespace ModelSchema

/-- An exclusion. -/
inductive ExcludeRule where
  | part (text : String)
  | pattern (tokens : List Glob.Token)
deriving DecidableEq, Repr

namespace ExcludeRule

/-- The rule of an entry of the settings. -/
def ofEntry (entry : String) : Except Failure ExcludeRule :=
  if Glob.isPattern entry then
    match Glob.compile entry with
    | .ok tokens => .ok (.pattern tokens)
    | .error fault => .error (.globPattern fault)
  else .ok (.part entry)

/-- Whether the rule excludes a path below the root. -/
def excludes (rule : ExcludeRule) (relative : List Char) : Bool :=
  match rule with
  | .part text => Text.contains text.toList relative
  | .pattern tokens => Glob.matchesTokens tokens relative

end ExcludeRule

/-- A root directory with the extensions and exclusions for the files below it. -/
structure SourceDirectory where
  root : Path
  extensions : List String
  exclude : List ExcludeRule
deriving DecidableEq, Repr

namespace SourceDirectory

/-- The source directory of the settings. -/
def ofSettings (s : SourceSettings) : Except Failure SourceDirectory := do
  let exclude ← s.exclude.mapM ExcludeRule.ofEntry
  return ⟨s.root, s.extensions, exclude⟩

/-- What the exclusions look at: the path below the root, or the whole path if it lies elsewhere,
with slashes for backslashes. -/
def relativeText (d : SourceDirectory) (p : Path) : List Char :=
  ((p.relativeTo? d.root).getD p).text.toList.map fun c => if c = '\\' then '/' else c

/-- Whether a path is excluded. -/
def isExcluded (d : SourceDirectory) (p : Path) : Bool :=
  d.exclude.any (·.excludes (d.relativeText p))

/-- Whether a path is that of a source file. -/
def accepts (d : SourceDirectory) (p : Path) : Bool :=
  (p.extension?.any fun e => d.extensions.any (Text.sameIgnoringAsciiCase e)) && !d.isExcluded p

/-- Whether a path could be that of a directory with source files, strictly below the root. -/
def mayContain (d : SourceDirectory) (p : Path) : Bool :=
  p.startsWith d.root && !p.same d.root && p.extension?.isNone && !d.isExcluded p

/-- The accepted files at and below a node. Symbolic links are followed, but not to a directory
that is being listed already. -/
def filesBelow (d : SourceDirectory) (t : FileTree) (listed : List Location) (place : Location)
    (p : Path) (node : FileNode) : Nat → List Path
  | 0 => []
  | depth + 1 =>
    match node with
    | .file _ => if d.accepts p then [p] else []
    | .directory =>
      (t.children place).flatMap fun (name, child) =>
        let below := p.join name
        match child with
        | .link _ =>
          match t.node? below with
          | some (there, .directory) =>
            if (place :: listed).contains there then []
            else d.filesBelow t (place :: listed) there below .directory depth
          | some (there, target) => d.filesBelow t (place :: listed) there below target depth
          | none => []
        | _ => d.filesBelow t (place :: listed) (place ++ [name]) below child depth
    | .link _ => []

/-- The accepted files of a tree, sorted by their components. -/
def discover (d : SourceDirectory) (t : FileTree) : List Path :=
  match t.node? d.root with
  | none => []
  | some (place, node) =>
    let depth := (t.nodes.length + 2) * (t.nodes.length + 2)
    (d.filesBelow t [] place d.root node depth).mergeSort fun p q => !q.before p

end SourceDirectory

/-- A file handed to a pass: its text, or why it cannot be read. -/
structure SourceFile where
  path : Path
  text : Except Failure String

namespace SourceFile

/-- A file of a tree. -/
def read (t : FileTree) (p : Path) : SourceFile where
  path := p
  text := (t.readText p).mapError fun fault => .fileRead p fault.message

end SourceFile

/-- The files of a source directory in a tree. -/
def SourceDirectory.files (d : SourceDirectory) (t : FileTree) : List SourceFile :=
  (d.discover t).map (SourceFile.read t)

end ModelSchema
