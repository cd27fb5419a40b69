import ModelSchema.Text.Cut

/-!
# Paths

A path is text cut into segments at its slashes. Empty segments and segments of a single point
name nothing, except for a point at the very front; two paths are the same if they have the same
components.

## Main definitions

* `Path.components` — the components of a path.
* `Path.fileName?`, `Path.extension?`, `Path.parent?` — its last component and what is before it.
* `Path.join`, `Path.withFileName` — paths made of paths.
* `Path.startsWith`, `Path.relativeTo?` — a path below another one.
-/

namespace ModelSchema

/-- A path as it is written. -/
structure Path where
  text : String
deriving DecidableEq, Repr

/-- A component of a path. -/
inductive Component where
  | root
  | current
  | parent
  | name (text : String)
deriving DecidableEq, Repr

namespace Component

/-- The rank of the kind of a component: the root, then the current directory, then the parent,
then names. -/
def rank : Component → Nat
  | .root => 0
  | .current => 1
  | .parent => 2
  | .name _ => 3

/-- Whether a component comes before another one; names are compared as text. -/
def before (a b : Component) : Bool :=
  match a, b with
  | .name s, .name t => s < t
  | _, _ => a.rank < b.rank

end Component

namespace Path

open Text

/-- What a path starts at. -/
inductive Start where
  | root
  | current
  | nothing
deriving DecidableEq, Repr

def start (p : Path) : Start :=
  match p.text.toList with
  | '/' :: _ => .root
  | ['.'] => .current
  | '.' :: '/' :: _ => .current
  | _ => .nothing

/-- The segments behind the start of a path. -/
def segments (p : Path) : List (List Char) :=
  let cs := p.text.toList
  cut (· == '/') (if p.start = .nothing then cs else cs.drop 1)

/-- Whether a segment names nothing. -/
def isTrivial (segment : List Char) : Bool := segment == [] || segment == ['.']

def Start.components : Start → List Component
  | .root => [.root]
  | .current => [.current]
  | .nothing => []

def Start.text : Start → List Char
  | .root => ['/']
  | .current => ['.']
  | .nothing => []

/-- The component of a segment that names something. -/
def componentOf (segment : List Char) : Component :=
  if segment = ['.', '.'] then .parent else .name (String.ofList segment)

/-- The components of a path. -/
def components (p : Path) : List Component :=
  p.start.components ++ (p.segments.filter (!isTrivial ·)).map componentOf

/-- Whether two paths have the same components. -/
def same (p q : Path) : Bool := p.components == q.components

/-- Whether one list of components comes before another, compared component by component. -/
def componentsBefore : List Component → List Component → Bool
  | _, [] => false
  | [], _ :: _ => true
  | a :: as, b :: bs => a.before b || (a == b && componentsBefore as bs)

/-- Whether `p` comes before `q`. -/
def before (p q : Path) : Bool := componentsBefore p.components q.components

/-- The last component, if it is a name. -/
def fileName? (p : Path) : Option String :=
  match p.components.getLast? with
  | some (.name s) => some s
  | _ => none

/-- What stands behind the last point of a file name that has something before that point. -/
def extensionOf? (name : List Char) : Option (List Char) :=
  match name.reverse.dropWhile (· != '.') with
  | _ :: _ :: _ => some (name.reverse.takeWhile (· != '.')).reverse
  | _ => none

/-- The extension of the file name. -/
def extension? (p : Path) : Option String :=
  p.fileName?.bind fun name => (extensionOf? name.toList).map String.ofList

/-- The segments without trivial ones at the end. -/
def trimTrivialEnd (segments : List (List Char)) : List (List Char) :=
  (segments.reverse.dropWhile isTrivial).reverse

/-- The path with that start and those segments. -/
def ofSegments (start : Start) (segments : List (List Char)) : Path :=
  ⟨String.ofList (start.text ++ joinWith ['/'] segments)⟩

/-- The path without its last component; the root and the empty path have no parent. -/
def parent? (p : Path) : Option Path :=
  match (trimTrivialEnd p.segments).reverse with
  | _ :: rest => some (ofSegments p.start (trimTrivialEnd rest.reverse))
  | [] => if p.start = .current then some ⟨""⟩ else none

/-- `q` below `p`; an absolute `q` is taken alone. -/
def join (p : Path) (q : String) : Path :=
  if q.toList.head? = some '/' then ⟨q⟩
  else match p.text.toList.getLast? with
    | none => ⟨q⟩
    | some '/' => ⟨p.text ++ q⟩
    | some _ => ⟨p.text ++ "/" ++ q⟩

/-- The path with another file name in the place of its own, or below it if it has none. -/
def withFileName (p : Path) (name : String) : Path :=
  match p.fileName? with
  | some _ => ((p.parent?).getD ⟨""⟩).join name
  | none => p.join name

/-- Whether `base` is `p` or a directory above it. -/
def startsWith (p base : Path) : Bool := base.components.isPrefixOf p.components

/-- The segments behind the first `n` that name something. -/
def dropNamed : Nat → List (List Char) → List (List Char)
  | 0, segments => segments
  | _, [] => []
  | n + 1, s :: segments => if isTrivial s then dropNamed (n + 1) segments else dropNamed n segments

/-- `p` as seen from `base`, if it lies there. -/
def relativeTo? (p base : Path) : Option Path :=
  let named := base.components.length
  if !p.startsWith base then none
  else if named = 0 then some (ofSegments p.start (trimTrivialEnd p.segments))
  else
    let rest := dropNamed (named - p.start.components.length) p.segments
    some (ofSegments .nothing (trimTrivialEnd (rest.dropWhile isTrivial)))

end Path

end ModelSchema
