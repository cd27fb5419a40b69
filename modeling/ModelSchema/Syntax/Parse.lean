import ModelSchema.Parsing.Parser

/-!
# Syntax trees of sources

The syntax tree of a source: the nodes of its best reading. Parts that only gather others have no
node; the nodes of what they gather stand in their place.

## Main definitions

* `Part.node` — the node of a part.
* `SyntaxNode.ofSource` — the tree of a source text.
-/

namespace ModelSchema

open Grammar Parsing

namespace Parsing.Part

/-- What the tree of a part is made from. -/
structure Outlook where
  source : SourceText
  numbering : Numbering

/-- The kind of node that a symbol has. -/
def kindOf (o : Outlook) (label : Option Label) (kind : PartKind) : SyntaxKind :=
  match label, kind with
  | some .typeName, _ => .typeIdentifier
  | _, .symbol n =>
    if n = o.numbering.ofNotion .program then .program
    else if n = o.numbering.ofNotion .interfaceDeclaration then .interfaceDeclaration
    else if n = o.numbering.ofNotion .typeAliasDeclaration then .typeAliasDeclaration
    else if n = o.numbering.ofNotion .exportStatement then .exportStatement
    else if n = o.numbering.ofNotion .objectType then .objectType
    else if n = o.numbering.ofNotion .propertySignature then .propertySignature
    else if n = o.numbering.ofToken (.lexeme .comment) then .comment
    else if n = o.numbering.ofToken (.signal .arrowComment) then .other "arrow comment"
    else if n = o.numbering.ofToken (.fixed "?") then .optionalMark
    else .other "part"
  | _, _ => .other "fault"

/-- How far below a declaration a node stands; zero if not below one. -/
abbrev Depth := Nat

/-- The depth of the nodes below a node. -/
def depthBelow (kind : SyntaxKind) (depth : Depth) : Depth :=
  if kind.isDeclaration then 1
  else if depth = 0 then 0
  else depth + 1

/-- Whether the text of a node is kept. Only that of names, of comments and of the types of the
members of a declaration is looked at: they stand below the declaration, its body and the member. -/
def keepsText (kind : SyntaxKind) (role : Option SyntaxField) (depth : Depth) : Bool :=
  kind == .comment || role == some .name || (role == some .type && depth == 3)

/-- A part with what the part above says about it. -/
structure Placed where
  part : Part
  mark : Mark

/-- Parts with their marks, each mark for one part that may not stand anywhere. A part without a
role takes over that of the part above. -/
def place (role : Option SyntaxField) : List Mark → List Part → List Placed
  | _, [] => []
  | marks, p :: rest =>
    if p.isExtra then ⟨p, ⟨none, none⟩⟩ :: place role marks rest
    else
      let mark := marks.headD ⟨none, none⟩
      ⟨p, ⟨mark.label, mark.role <|> role⟩⟩ :: place role marks.tail rest

/-- Whether a part has a node where it stands. -/
def Placed.isNode (p : Placed) : Bool := p.part.info.isShown || p.mark.label.isSome

/-- Parts that have nodes, those that only gather others replaced by what they gather. -/
def unfold : Nat → List Placed → List Placed → List Placed
  | 0, found, _ => found.reverse
  | _, found, [] => found.reverse
  | fuel + 1, found, p :: rest =>
    if p.isNode then unfold fuel (p :: found) rest
    else unfold fuel found (place p.mark.role p.part.info.marks p.part.parts ++ rest)

/-- The node of a part. -/
def node (o : Outlook) : Nat → Depth → Placed → SyntaxNode
  | 0, _, p => .mk (.other "part") p.mark.role 0 0 [] []
  | fuel + 1, depth, p =>
    let info := p.part.info
    let kind := kindOf o p.mark.label info.kind
    let text :=
      if keepsText kind p.mark.role depth then o.source.between info.start info.stop else []
    let inner := unfold (info.size + 1) [] (place none info.marks p.part.parts)
    .mk kind p.mark.role (o.source.line info.start) (o.source.line info.stop) text
      (inner.map (node o fuel (depthBelow kind depth)))

end Parsing.Part

/-- The table of a dialect, which is made once. -/
def Dialect.table : Dialect → Thunk Table
  | .plain => plain
  | .jsx => jsx
where
  plain : Thunk Table := Thunk.mk fun _ => Table.ofDialect .plain
  jsx : Thunk Table := Thunk.mk fun _ => Table.ofDialect .jsx

/-- The syntax tree of a source text. -/
def SyntaxNode.ofSource (d : Dialect) (text : String) : SyntaxNode :=
  let table := d.table.get
  let source := SourceText.ofString text
  match Part.ofSource? table source with
  | none => .mk .program none 0 0 [] []
  | some root =>
    Part.node ⟨source, table.numbering⟩ root.info.size 0 ⟨root, ⟨none, none⟩⟩

end ModelSchema
