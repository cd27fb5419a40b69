import ModelSchema.Grammar.Notion
import ModelSchema.Grammar.Token
import ModelSchema.Syntax.Tree

/-!
# Rules

How the rule of a notion is written: tokens and notions in sequence, in choice and repeated, with
what decides between readings where a text can be read in more than one way.

## Main definitions

* `Rank` — how tightly a rule binds; `Rank.orders` says which of two binds more.
* `Side` — to which side a rule of one rank groups.
* `Rule` — rules, and the functions that build them.
-/

namespace ModelSchema.Grammar

/-! ## Ranks -/

/-- How tightly a rule binds. -/
inductive Rank where
  | level (n : Int)
  | assign | binary | call | declaration | declare | equality | exponent | extended
  | instantiation | literal | logicalAnd | logicalOr | member | bitAnd | bitOr | bitXor | new
  | object | plus | comparison | shift | templateCall | ternary | times | unary | unaryVoid
deriving DecidableEq, Repr, Hashable

/-- What may stand in an order of ranks. -/
inductive Rank.Entry where
  | rank (r : Rank)
  | notion (n : Notion)
deriving DecidableEq, Repr

namespace Rank

open Entry

/-- Orders of ranks and notions, each from what binds tightest on. -/
def orders : List (List Entry) := [
  [rank .member, rank .templateCall, rank .call, notion .updateExpression, rank .unaryVoid,
    rank .exponent, rank .times, rank .plus, rank .shift, rank .comparison, rank .equality,
    rank .bitAnd, rank .bitXor, rank .bitOr, rank .logicalAnd, rank .logicalOr, rank .ternary,
    notion .sequenceExpression, notion .arrowFunction],
  [rank .assign, notion .primaryExpression],
  [rank .member, rank .templateCall, rank .new, rank .call, notion .expression],
  [rank .declaration, rank .literal],
  [notion .primaryExpression, notion .statementBlock, rank .object],
  [notion .metaProperty, notion .importKeyword],
  [notion .importStatement, notion .importKeyword],
  [notion .exportStatement, notion .primaryExpression],
  [notion .lexicalDeclaration, notion .primaryExpression],
  [rank .call, rank .instantiation, rank .unary, rank .binary, notion .awaitExpression,
    notion .arrowFunction],
  [rank .extended, rank .instantiation],
  [notion .intersectionType, notion .unionType, notion .conditionalType, notion .functionType,
    rank .binary, notion .typePredicate, notion .readonlyType],
  [notion .mappedTypeClause, notion .primaryExpression],
  [notion .accessibility, notion .primaryExpression],
  [rank .unaryVoid, notion .expression],
  [notion .extendsClause, notion .primaryExpression],
  [rank .unary, rank .assign],
  [rank .declare, notion .expression],
  [notion .predefinedType, notion .unaryExpression],
  [notion .type, notion .maybeType],
  [notion .tupleType, notion .arrayType, notion .pattern, notion .type],
  [notion .readonlyType, notion .pattern],
  [notion .readonlyType, notion .primaryExpression],
  [notion .typeQuery, notion .subscriptExpression, notion .expression],
  [notion .typeQuery, notion .querySubscript],
  [notion .qualifiedTypeName, notion .genericType, notion .primaryType, notion .lookupType,
    notion .indexTypeQuery, notion .type],
  [notion .asExpression, notion .satisfiesExpression, notion .primaryType],
  [notion .queryMember, notion .memberExpression],
  [notion .memberExpression, notion .importedMember],
  [notion .queryMember, notion .primaryExpression],
  [notion .querySubscript, notion .subscriptExpression],
  [notion .querySubscript, notion .primaryExpression],
  [notion .queryCall, notion .primaryExpression],
  [notion .queryInstantiation, notion .primaryExpression],
  [notion .typeQuery, notion .primaryExpression],
  [notion .overrideModifier, notion .primaryExpression],
  [notion .decoratorCall, notion .decorator],
  [notion .literalType, notion .pattern],
  [notion .predefinedType, notion .pattern],
  [notion .callExpression, notion .queryCall],
  [notion .callExpression, notion .importedCall],
  [notion .newExpression, notion .primaryExpression],
  [notion .metaProperty, notion .primaryExpression],
  [notion .constructMember, notion .propertyName]]

end Rank

/-- To which side a rule groups with one of its own rank. -/
inductive Side where
  | left
  | right
deriving DecidableEq, Repr, Hashable

/-- How a part shows in the tree where its notion or token does not say. -/
inductive Label where
  /-- As the name of a type. -/
  | typeName
  /-- As a node, though its notion or token has none. -/
  | node
deriving DecidableEq, Repr, Hashable

/-! ## Rules -/

/-- A rule of the grammar. -/
inductive Rule where
  | empty
  | token (t : Token)
  | notion (n : Notion)
  | seq (a b : Rule)
  | alt (a b : Rule)
  /-- Once or more often. -/
  | many1 (a : Rule)
  | ranked (rank : Rank) (a : Rule)
  | leaning (side : Side) (a : Rule)
  /-- Readings with a higher bonus are preferred to others of the same text. -/
  | bonus (amount : Int) (a : Rule)
  | labeled (label : Label) (a : Rule)
  | role (field : SyntaxField) (a : Rule)
deriving DecidableEq, Hashable

namespace Rule

instance : Coe String Rule := ⟨fun text => token (.fixed text)⟩
instance : Coe Lexeme Rule := ⟨fun l => token (.lexeme l)⟩
instance : Coe Signal Rule := ⟨fun s => token (.signal s)⟩
instance : Coe Notion Rule := ⟨notion⟩

/-- The rules one behind the other. -/
def all (rules : List Rule) : Rule := rules.foldr seq empty

/-- One of the rules. -/
def any : List Rule → Rule
  | [] => empty
  | [a] => a
  | a :: rest => alt a (any rest)

def opt (a : Rule) : Rule := alt a empty

def many (a : Rule) : Rule := alt (many1 a) empty

/-- Once or more often with a mark between. -/
def separated (mark a : Rule) : Rule := seq a (many (seq mark a))

/-- Once or more often with commas between. -/
def list1 (a : Rule) : Rule := separated "," a

/-- Any number of times with commas between. -/
def list (a : Rule) : Rule := opt (list1 a)

end Rule

end ModelSchema.Grammar
