import ModelSchema.Classifier
import ModelSchema.Path
import ModelSchema.Syntax.Doc
import ModelSchema.Syntax.Parse

/-!
# Extraction of models

The models that a source file declares: its interfaces and object type aliases, and its aliases
of a named type, as far as the classifier takes them for models. A declaration inside another one
does not count.

## Main definitions

* `Site` — a declaration in a tree, with what stands before it.
* `SyntaxNode.sites` — the outermost declarations of a tree, in order.
* `Site.model?` — the model that a declaration gives.
* `extract` — the models of a source text.
-/

namespace ModelSchema

open Text

/-! ## Dialects -/

namespace Dialect

/-- The dialect for a file extension. -/
def ofExtension? (ext : String) : Option Dialect :=
  let lowered := lowerOf ext
  if ["ts", "mts", "cts"].contains lowered then some .plain
  else if lowered = "tsx" then some .jsx
  else none

/-- The dialect for a path; plain unless its extension says otherwise. -/
def ofPath (p : Path) : Dialect := (p.extension?.bind ofExtension?).getD .plain

end Dialect

/-! ## Sites -/

/-- A declaration in a tree. An exported one is looked at from where the export starts: `line` is
the line there, and `before` are the nodes before it, nearest first. -/
structure Site where
  node : SyntaxNode
  before : List SyntaxNode
  line : Nat

/-- What a declaration directly below a node is looked at from, if not from itself. -/
abbrev Anchor := Option (List SyntaxNode × Nat)

namespace SyntaxNode

mutual

/-- The outermost declarations at and below a node. -/
def sitesAt (anchor : Anchor) (before : List SyntaxNode) : SyntaxNode → List Site
  | mk kind field startLine endLine text children =>
    if kind.isDeclaration then
      let (before, line) := anchor.getD (before, startLine)
      [⟨mk kind field startLine endLine text children, before, line⟩]
    else sitesIn (if kind = .exportStatement then some (before, startLine) else none) [] children

/-- The outermost declarations among siblings, before which stand the nodes `before`. -/
def sitesIn (anchor : Anchor) (before : List SyntaxNode) : List SyntaxNode → List Site
  | [] => []
  | n :: ns => sitesAt anchor before n ++ sitesIn anchor (n :: before) ns

end

/-- The outermost declarations of a tree, in order. -/
def sites (root : SyntaxNode) : List Site := sitesIn none [] root.children

end SyntaxNode

/-! ## Doc comments -/

/-- The doc comment directly above a line, if nothing but it stands there: it ends on the line
before or later, and does not start on the line on which something else ends. -/
def leadingDoc? (before : List SyntaxNode) (line : Nat) : Option String :=
  match before with
  | [] => none
  | comment :: others =>
    let trailing := others.head?.any (·.endLine == comment.startLine)
    if comment.kind = .comment ∧ line ≤ comment.endLine + 1 ∧ ¬ trailing ∧ Doc.isDoc comment.text
    then
      let cleaned := Doc.clean comment.text
      if cleaned.isEmpty then none else some (String.ofList cleaned)
    else none

/-! ## Properties -/

/-- The spelling of a type as written, on one line, without its colon and without bars at its
front. -/
def normalizeType (written : List Char) : List Char :=
  let spelled := trim (trimStartBy (· == ':') (trimStart written))
  collapse (trim (trimStartBy (· == '|') spelled))

/-- The quotes around the name of a property. -/
def isNameQuote (c : Char) : Bool := c == '"' || c == '\x27'

/-- The property that a signature gives, if it has a type. -/
def propertyOf? (before : List SyntaxNode) (n : SyntaxNode) : Option Property := do
  let name ← n.child? .name
  let type ← n.child? .type
  let raw := normalizeType type.text
  if raw.isEmpty then none
  else
    let declared := Property.declared (String.ofList (trimBy isNameQuote name.text))
      (String.ofList raw) (Spelling.columnType raw)
    return { declared with
      isOptional := n.children.any (·.kind == .optionalMark) || Spelling.isNullable raw
      doc := leadingDoc? before n.startLine }

/-- The properties among the nodes of a body. -/
def propertiesFrom (before : List SyntaxNode) : List SyntaxNode → List Property
  | [] => []
  | n :: ns =>
    (if n.kind = .propertySignature then (propertyOf? before n).toList else []) ++
      propertiesFrom (n :: before) ns

/-- The properties of a body. -/
def propertiesOf (body : SyntaxNode) : List Property := propertiesFrom [] body.children

/-! ## Models -/

namespace Site

/-- The name and doc comment of a declaration that the classifier takes for a model. -/
def header? (models : ModelSettings) (s : Site) : Option (String × Option String) := do
  let name ← s.node.child? .name
  let name := String.ofList name.text
  let doc := leadingDoc? s.before s.line
  if models.isModel name doc then some (name, doc) else none

/-- The properties that a declaration gives. An alias of a named type is not followed; it gives a
key of its own. -/
def properties? (s : Site) : Option (List Property) :=
  if s.node.kind = .interfaceDeclaration then (s.node.child? .body).map propertiesOf
  else (s.node.child? .value).bind fun value =>
    match value.kind with
    | .objectType => some (propertiesOf value)
    | .typeIdentifier => some [Property.placeholderKey]
    | _ => none

/-- The model that a declaration gives. -/
def model? (models : ModelSettings) (sourceFile : String) (s : Site) : Option Model := do
  let (name, doc) ← s.header? models
  let properties ← s.properties?
  return { name, properties, sourceFile, doc }

end Site

/-- The models that a tree declares. -/
def SyntaxNode.models (root : SyntaxNode) (models : ModelSettings) (sourceFile : String) :
    List Model :=
  root.sites.filterMap (·.model? models sourceFile)

/-- The models that a source text declares, in order. -/
def extract (models : ModelSettings) (p : Path) (source : String) : List Model :=
  (SyntaxNode.ofSource (Dialect.ofPath p) source).models models p.text

end ModelSchema
