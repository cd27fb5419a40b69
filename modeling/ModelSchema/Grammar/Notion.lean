/-!
# Notions of the grammar

What the parts of a source text are called. The order of the notions matters: where two readings
of equal length end at the same place, the notion that comes first is tried first.

## Main definitions

* `Notion` — the notions.
* `Notion.isShown` — whether a part has a node of its own in the syntax tree.
-/

namespace ModelSchema.Grammar

/-- A notion of the grammar. -/
inductive Notion where
  | program
  -- Exports and imports
  | exportStatement | namespaceExport | exportClause | exportSpecifier | exportName
  | declaration
  | importKeyword | importStatement | importClause | fromClause | namespaceImport | namedImports
  | importSpecifier | importAttribute
  -- Statements
  | statement | expressionStatement | variableDeclaration | lexicalDeclaration
  | variableDeclarator | statementBlock | elseClause | ifStatement | switchStatement
  | forStatement | forInStatement | forHeader | whileStatement | doStatement | tryStatement
  | withStatement | breakStatement | continueStatement | debuggerStatement | returnStatement
  | throwStatement | emptyStatement | labeledStatement | switchBody | switchCase | switchDefault
  | catchClause | finallyClause
  -- Expressions
  | parenthesizedExpression | expression | primaryExpression | yieldExpression | object
  | objectPattern | assignmentPattern | objectAssignmentPattern | array | arrayPattern
  -- Elements
  | element | elementExpression | openingElement | nestedIdentifier | namespacedName
  | closingElement | selfClosingElement | elementAttribute | attributeString
  -- Classes and functions
  | classExpression | classDeclaration | classHeritage | functionExpression | functionDeclaration
  | generatorFunction | generatorDeclaration | arrowFunction | signature | formalParameter
  -- Operations
  | optionalChain | callExpression | newExpression | awaitExpression | memberExpression
  | subscriptExpression | assignmentExpression | augmentedTarget | augmentedAssignment
  | initializer | destructuringPattern | spreadElement | ternaryExpression | binaryExpression
  | unaryExpression | updateExpression | sequenceExpression
  -- Literals
  | stringLiteral | templateString | templateSubstitution | regex | metaProperty
  -- Members
  | arguments | decorator | decoratorMember | decoratorCall | classBody | formalParameters
  | staticBlock | pattern | restPattern | methodDefinition | pair | pairPattern | propertyName
  | computedName | fieldDefinition | importName | nonNullExpression | methodSignature
  | abstractMethodSignature | functionSignature | decoratorParenthesized
  -- Operations on types
  | typeAssertion | asExpression | satisfiesExpression | instantiationExpression
  -- Declarations
  | importRequireClause | extendsClause | extendedClass | implementsClause | ambientDeclaration
  | abstractClassDeclaration | moduleDeclaration | namespaceDeclaration | moduleBody | importAlias
  | qualifiedTypeName | interfaceDeclaration | extendsTypeClause | enumDeclaration | enumBody
  | enumAssignment | typeAliasDeclaration
  -- Modifiers, parameters and ascriptions
  | accessibility | overrideModifier | requiredParameter | optionalParameter | parameterName
  | omittingAscription | addingAscription | optingAscription | typeAscription
  | importedMember | importedCall | assertion | assertionAscription
  -- Types
  | type | tupleParameter | optionalTupleParameter | optionalType | restType | tupleMember
  | constructorType | primaryType | templateType | templateLiteralType | inferType
  | conditionalType | genericType | typePredicate | predicateAscription | queryMember
  | querySubscript | queryCall | queryInstantiation | typeQuery | indexTypeQuery | lookupType
  | mappedTypeClause | literalType | signedNumber | existentialType | maybeType
  | parenthesizedType | predefinedType | typeArguments | objectType | callMember
  | propertySignature | typeParameters | typeParameter | defaultType | constraint
  | constructMember | indexSignature | arrayType | tupleType | readonlyType | unionType
  | intersectionType | functionType
deriving DecidableEq, Repr, Hashable

namespace Notion

/-- Whether a part has a node of its own. Notions that only gather others have none. -/
def isShown : Notion → Bool
  | exportName | declaration | fromClause | statement | forHeader | expression
  | primaryExpression | attributeString | signature | formalParameter | augmentedTarget
  | initializer | destructuringPattern | pattern | propertyName | importName | extendedClass
  | moduleBody | parameterName | importedMember | importedCall | type | tupleMember | primaryType
  | queryMember | querySubscript | queryCall | queryInstantiation | signedNumber => false
  | _ => true

end Notion

end ModelSchema.Grammar
