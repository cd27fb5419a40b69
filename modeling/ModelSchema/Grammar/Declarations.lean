import ModelSchema.Grammar.Names

/-!
# Declarations of types and namespaces
-/

namespace ModelSchema.Grammar

open Rule Notion Lexeme Signal

/-- The rules of namespaces and of declarations without a value. -/
def namespaceRules : List (Notion × Rule) := [
  (ambientDeclaration, all ["declare", any [
    declaration,
    all ["global", statementBlock],
    all ["module", ".", identifier, ":", type, semicolon]]]),
  (moduleDeclaration, all ["module", moduleBody]),
  (namespaceDeclaration, all ["namespace", moduleBody]),
  (moduleBody, leaning .right (all [role .name (any [stringLiteral, identifier, nestedIdentifier]),
    role .body (opt statementBlock)]))]

/-- The rules of declared types. -/
def declarationRules : List (Notion × Rule) := [
  (interfaceDeclaration, all ["interface", role .name typeName, opt typeParameters,
    opt extendsTypeClause, role .body objectType]),
  (extendsTypeClause, all ["extends",
    list1 (role .type (any [typeName, qualifiedTypeName, genericType]))]),
  (typeAliasDeclaration, all ["type", role .name typeName, opt typeParameters, "=",
    role .value type, semicolon]),
  (enumDeclaration, all [opt "const", "enum", role .name identifier, role .body enumBody]),
  (enumBody, all ["\x7b",
    opt (all [list1 (any [role .name propertyName, enumAssignment]), opt ","]), "\x7d"]),
  (enumAssignment, all [role .name propertyName, initializer])]

/-- The rules of what object types are made of. -/
def objectTypeRules : List (Notion × Rule) := [
  (objectType, all [any ["\x7b", "\x7b|"],
    opt (all [opt (any [",", ";"]),
      separated (any [",", semicolon])
        (any [exportStatement, propertySignature, callMember, constructMember, indexSignature,
          methodSignature]),
      opt (any [",", semicolon])]),
    any ["\x7d", "|\x7d"]]),
  (callMember, signature),
  (propertySignature, all [opt accessibility, opt "static", opt overrideModifier,
    opt "readonly", role .name propertyName, opt "?", typed]),
  (constructMember, all [opt "abstract", "new", opt typeParameters, formalParameters, typed]),
  (indexSignature, all [opt (all [opt (any ["-", "+"]), "readonly"]), "[",
    any [all [role .name looseName, ":", type], mappedTypeClause], "]",
    role .type (any [typeAscription, omittingAscription, addingAscription, optingAscription])]),
  (mappedTypeClause, all [role .name typeName, "in", role .type type, opt (all ["as", type])]),
  (typeAscription, all [":", type]),
  (omittingAscription, all ["-?:", type]),
  (addingAscription, all ["+?:", type]),
  (optingAscription, all ["?:", type]),
  (assertionAscription, all [":", assertion]),
  (predicateAscription, all [":", typePredicate]),
  (assertion, all ["asserts", any [typePredicate, identifier, "this"]]),
  (typePredicate, all [role .name (any [identifier, "this", predefinedType]), "is",
    role .type type])]

end ModelSchema.Grammar
