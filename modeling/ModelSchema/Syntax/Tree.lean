/-!
# Syntax trees

A tree over source text. Only the kinds of nodes that declarations are made of have names of their
own; a node of any other kind may stand anywhere.

## Main definitions

* `SyntaxKind`, `SyntaxField` — the kind of a node, and the role it has in the node above it.
* `SyntaxNode` — nodes with their place and text.
* `SyntaxNode.child?` — the child with a role.
-/

namespace ModelSchema

/-- The kind of a node. -/
inductive SyntaxKind where
  | program
  | interfaceDeclaration
  | typeAliasDeclaration
  | exportStatement
  | comment
  | objectType
  | typeIdentifier
  | propertySignature
  | optionalMark
  | other (label : String)
deriving DecidableEq, Repr

/-- Whether a node of a kind declares a type. -/
def SyntaxKind.isDeclaration : SyntaxKind → Bool
  | interfaceDeclaration | typeAliasDeclaration => true
  | _ => false

/-- The role of a node in the node above it. -/
inductive SyntaxField where
  | name
  | body
  | value
  | type
deriving DecidableEq, Repr, Hashable

/-- A node: its kind and role, the lines on which its text starts and ends, that text, and the
nodes below it in order. -/
inductive SyntaxNode where
  | mk (kind : SyntaxKind) (field : Option SyntaxField) (startLine endLine : Nat)
      (text : List Char) (children : List SyntaxNode)

namespace SyntaxNode

def kind : SyntaxNode → SyntaxKind
  | mk kind .. => kind

def field : SyntaxNode → Option SyntaxField
  | mk _ field .. => field

def startLine : SyntaxNode → Nat
  | mk _ _ startLine .. => startLine

def endLine : SyntaxNode → Nat
  | mk _ _ _ endLine .. => endLine

def text : SyntaxNode → List Char
  | mk _ _ _ _ text _ => text

def children : SyntaxNode → List SyntaxNode
  | mk _ _ _ _ _ children => children

/-- The first child with a role. -/
def child? (n : SyntaxNode) (field : SyntaxField) : Option SyntaxNode :=
  n.children.find? (·.field == some field)

end SyntaxNode

end ModelSchema
