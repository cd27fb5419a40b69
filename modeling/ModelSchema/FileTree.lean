import ModelSchema.Failure
import ModelSchema.Text.Utf8

/-!
# File trees

Directories, files and symbolic links under one root directory, which is also the working
directory: both relative and absolute paths start there.

## Main definitions

* `FileTree`, `FileTree.get?`, `FileTree.put`, `FileTree.erase` — the tree as a map from places.
* `FileTree.find` — the place that a path leads to, through symbolic links.
* `FileTree.readText`, `FileTree.write`, `FileTree.makeDirectories`, `FileTree.rename`,
  `FileTree.removeFile` — the operations on files, each with the faults it can meet.
-/

namespace ModelSchema

/-- A place in the tree: the names on the way from the root. -/
abbrev Location := List String

/-- What can stand at a place. -/
inductive FileNode where
  | file (content : ByteArray)
  | directory
  | link (target : String)

/-- The nodes below the root, each place once. -/
structure FileTree where
  nodes : List (Location × FileNode) := []

namespace FileTree

/-! ## Places -/

/-- The node at a place; the root is a directory. -/
def get? (t : FileTree) (place : Location) : Option FileNode :=
  if place = [] then some .directory else t.nodes.lookup place

/-- The tree without the node at a place. -/
def erase (t : FileTree) (place : Location) : FileTree :=
  ⟨t.nodes.filter (·.1 ≠ place)⟩

/-- The tree with a node at a place. -/
def put (t : FileTree) (place : Location) (node : FileNode) : FileTree :=
  if t.nodes.any (·.1 = place) then
    ⟨t.nodes.map fun n => if n.1 = place then (place, node) else n⟩
  else ⟨t.nodes ++ [(place, node)]⟩

/-- The tree without a place and all below it. -/
def eraseAll (t : FileTree) (place : Location) : FileTree :=
  ⟨t.nodes.filter (!place.isPrefixOf ·.1)⟩

/-- The names and nodes directly below a place. -/
def children (t : FileTree) (place : Location) : List (String × FileNode) :=
  t.nodes.filterMap fun (here, node) =>
    match here.getLast? with
    | some name => if here.dropLast = place then some (name, node) else none
    | none => none

/-! ## Paths -/

/-- Where a path leads. -/
inductive Found where
  /-- A node of the tree. -/
  | node (place : Location) (node : FileNode)
  /-- A free name in a directory; `asDirectory` tells whether the path ends with a slash. -/
  | free (place : Location) (asDirectory : Bool)

/-- How many symbolic links a path may lead through. -/
def linkLimit : Nat := 40

/-- How many bytes a name may have. -/
def nameLimit : Nat := 255

/-- How many bytes a whole path may have. -/
def pathLimit : Nat := 4095

/-- Why a text cannot be a path: the empty one leads nowhere, none holds the character with
number zero, and none is longer than the limit. -/
def pathFault? (text : String) : Option IoFault :=
  if text.toList.any (·.toNat == 0) then some .nulInName
  else if text = "" then some .notFound
  else if pathLimit < text.utf8ByteSize then some .nameTooLong
  else none

/-- The segments of a path as it is written. -/
def rawSegments (text : String) : List String :=
  (Text.cut (· == '/') text.toList).map String.ofList

/-- Where the segments lead from a directory. A symbolic link at the very end is followed only if
`follow` is set; `links` more links may be followed. -/
def walk (t : FileTree) (links : Nat) (follow : Bool) (here : Location) :
    List String → Except IoFault Found
  | [] => .ok (.node here .directory)
  | segment :: rest =>
    if segment = "" ∨ segment = "." then walk t links follow here rest
    else if segment = ".." then walk t links follow here.dropLast rest
    else if nameLimit < segment.utf8ByteSize then .error .nameTooLong
    else
      let there := here ++ [segment]
      match t.get? there with
      | none =>
        if rest.all (· == "") then .ok (.free there !rest.isEmpty) else .error .notFound
      | some (.file content) =>
        if rest.isEmpty then .ok (.node there (.file content)) else .error .notADirectory
      | some .directory => walk t links follow there rest
      | some (.link target) =>
        if rest.isEmpty && !follow then .ok (.node there (.link target))
        else match links with
          | 0 => .error .tooManyLinks
          | links + 1 =>
            walk t links follow (if target.toList.head? = some '/' then [] else here)
              (rawSegments target ++ rest)
termination_by segments => (links, segments.length)

/-- Where a path leads. -/
def find (t : FileTree) (follow : Bool) (p : Path) : Except IoFault Found :=
  match pathFault? p.text with
  | some fault => .error fault
  | none => walk t linkLimit follow [] (rawSegments p.text)

/-- The node that a path leads to through symbolic links, and its place. -/
def node? (t : FileTree) (p : Path) : Option (Location × FileNode) :=
  match t.find true p with
  | .ok (.node place node) => some (place, node)
  | _ => none

/-- The absolute path of a place. -/
def pathOf (place : Location) : Path := ⟨"/" ++ "/".intercalate place⟩

/-- The absolute path without symbolic links of the node that a path leads to. -/
def canonical? (t : FileTree) (p : Path) : Option Path := (t.node? p).map fun n => pathOf n.1

def pathExists (t : FileTree) (p : Path) : Bool := (t.node? p).isSome

def isDirectory (t : FileTree) (p : Path) : Bool :=
  match t.node? p with
  | some (_, .directory) => true
  | _ => false

/-! ## Operations -/

/-- The bytes of the file that a path leads to. -/
def readBytes (t : FileTree) (p : Path) : Except IoFault ByteArray :=
  match t.find true p with
  | .error fault => .error fault
  | .ok (.free _ _) => .error .notFound
  | .ok (.node _ (.file content)) => .ok content
  | .ok (.node _ _) => .error .isADirectory

/-- The text of the file that a path leads to. -/
def readText (t : FileTree) (p : Path) : Except IoFault String := do
  let bytes ← t.readBytes p
  match Text.decodeUtf8? bytes with
  | some text => return text
  | none => throw .invalidUtf8

/-- The tree with new content in the file that a path leads to. -/
def write (t : FileTree) (p : Path) (content : ByteArray) : Except IoFault FileTree :=
  match t.find true p with
  | .error fault => .error fault
  | .ok (.free place false) => .ok (t.put place (.file content))
  | .ok (.free _ true) => .error .isADirectory
  | .ok (.node place (.file _)) => .ok (t.put place (.file content))
  | .ok (.node _ _) => .error .isADirectory

/-- The tree with a new directory at a free name. -/
def makeDirectory (t : FileTree) (p : Path) : Except IoFault FileTree :=
  match t.find false p with
  | .error fault => .error fault
  | .ok (.free place _) => .ok (t.put place .directory)
  | .ok (.node _ _) => .error .alreadyExists

/-- A path and the ones above it, nearest first. -/
def selfAndAncestors (p : Path) : Nat → List Path
  | 0 => [p]
  | n + 1 =>
    match p.parent? with
    | some above => p :: selfAndAncestors above n
    | none => [p]

/-- The first directory of the list made, after those behind it where that is needed; `refuses`
tells which ones cannot be made for a reason outside the tree. With a fault comes the tree as the
attempt leaves it. -/
def makeFirst (refuses : Path → Option IoFault) (t : FileTree) :
    List Path → Except (IoFault × FileTree) FileTree
  | [] => .error (.noWholeTree, t)
  | p :: above =>
    let make (t : FileTree) : Except IoFault FileTree :=
      match refuses p with
      | some fault => .error fault
      | none => t.makeDirectory p
    let settle (t : FileTree) (fault : IoFault) : Except (IoFault × FileTree) FileTree :=
      if t.isDirectory p then .ok t else .error (fault, t)
    if p.text = "" then .ok t
    else match make t with
      | .ok made => .ok made
      | .error .notFound =>
        match makeFirst refuses t above with
        | .error e => .error e
        | .ok t =>
          match make t with
          | .ok made => .ok made
          | .error fault => settle t fault
      | .error fault => settle t fault

/-- The directory that a path names, and all directories above it that are missing. -/
def makeDirectories (t : FileTree) (p : Path) (refuses : Path → Option IoFault := fun _ => none) :
    Except (IoFault × FileTree) FileTree :=
  makeFirst refuses t (selfAndAncestors p p.components.length)

/-- The segments of a path before its last one, and the last one; slashes at the end do not
count as segments. -/
def splitLast (p : Path) : List String × Option String × Bool :=
  let reversed := (rawSegments p.text).reverse
  match reversed.dropWhile (· == "") with
  | [] => (rawSegments p.text, none, true)
  | last :: before => (before.reverse, some last, reversed.head? == some "")

/-- The tree with the file at `source` moved to the path `p`, in the place of a file or a symbolic
link that stands there. -/
def rename (t : FileTree) (source : Location) (p : Path) : Except IoFault FileTree :=
  match t.get? source with
  | none => .error .notFound
  | some moved =>
    match pathFault? p.text with
    | some fault => .error fault
    | none =>
      let (before, last, slash) := splitLast p
      match walk t linkLimit true [] before with
      | .error fault => .error fault
      | .ok (.free _ _) => .error .notFound
      | .ok (.node above .directory) =>
        match last with
        | none | some "." | some ".." => .error .busy
        | some name =>
          let place := above ++ [name]
          if nameLimit < name.utf8ByteSize then .error .nameTooLong
          else if slash then .error .notADirectory
          else match t.get? place with
            | some .directory => .error .isADirectory
            | _ => if place = source then .ok t else .ok ((t.erase source).put place moved)
      | .ok (.node _ _) => .error .notADirectory

/-- The tree without the file or symbolic link that a path names. -/
def removeFile (t : FileTree) (p : Path) : Except IoFault FileTree :=
  match t.find false p with
  | .error fault => .error fault
  | .ok (.free _ _) => .error .notFound
  | .ok (.node _ .directory) => .error .isADirectory
  | .ok (.node place _) => .ok (t.erase place)

/-- The tree without what a path names and all below it. -/
def removeAll (t : FileTree) (p : Path) : FileTree :=
  match t.find false p with
  | .ok (.node place _) => t.eraseAll place
  | _ => t

/-- The tree with a symbolic link at a free name. -/
def makeLink (t : FileTree) (p : Path) (target : String) : Except IoFault FileTree :=
  match pathFault? target with
  | some fault => .error fault
  | none =>
    match t.find false p with
    | .error fault => .error fault
    | .ok (.free place _) => .ok (t.put place (.link target))
    | .ok (.node _ _) => .error .alreadyExists

/-- A file with its content, and the directories above it. -/
def putFile (t : FileTree) (p : Path) (content : ByteArray) : Except IoFault FileTree := do
  let t ← match p.parent? with
    | some above => (t.makeDirectories above).mapError (·.1)
    | none => pure t
  t.write p content

/-- Every node below a place, depth first, the entries of a directory by name; directories end
with a slash and symbolic links are not entered. -/
def listing (t : FileTree) (place : Location) : Nat → List String
  | 0 => []
  | depth + 1 =>
    ((t.children place).mergeSort fun a b => !decide (b.1 < a.1)).flatMap fun (name, node) =>
      let path := "/".intercalate (place ++ [name])
      match node with
      | .directory => (path ++ "/") :: listing t (place ++ [name]) depth
      | _ => [path]

/-- Every node of the tree. -/
def list (t : FileTree) : List String := t.listing [] (t.nodes.length + 1)

end FileTree

end ModelSchema
