import ModelSchema.Grammar.Names

/-!
# Exports and imports
-/

namespace ModelSchema.Grammar

open Rule Notion Lexeme Signal

/-- The rules of exports. -/
def exportRules : List (Notion × Rule) := [
  (exportStatement, any [
    all ["export", any [
      all ["*", fromClause],
      all [namespaceExport, fromClause],
      all [exportClause, fromClause],
      exportClause], semicolon],
    all [many decorator, "export", any [
      declaration,
      all ["default", any [declaration, all [role .value expression, semicolon]]]]],
    all ["export", "type", exportClause, opt fromClause, semicolon],
    all ["export", "import", importAlias],
    all ["export", "=", expression, semicolon],
    all ["export", "as", "namespace", identifier, semicolon]]),
  (namespaceExport, all ["*", "as", exportName]),
  (exportClause, all ["\x7b", list exportSpecifier, opt ",", "\x7d"]),
  (exportSpecifier, all [opt (any ["type", "typeof"]), role .name exportName,
    opt (all ["as", exportName])]),
  (exportName, any [identifier, stringLiteral]),
  (declaration, any [functionDeclaration, generatorDeclaration, classDeclaration,
    lexicalDeclaration, variableDeclaration, functionSignature, abstractClassDeclaration,
    moduleDeclaration, ranked .declare namespaceDeclaration, typeAliasDeclaration,
    enumDeclaration, interfaceDeclaration, importAlias, ambientDeclaration])]

/-- The rules of imports. -/
def importRules : List (Notion × Rule) := [
  (importKeyword, "import"),
  (importStatement, all ["import", opt (any ["type", "typeof"]),
    any [all [importClause, fromClause], importRequireClause, stringLiteral],
    opt importAttribute, semicolon]),
  (importClause, any [namespaceImport, namedImports,
    all [importName, opt (all [",", any [namespaceImport, namedImports]])]]),
  (fromClause, all ["from", stringLiteral]),
  (namespaceImport, all ["*", "as", identifier]),
  (namedImports, all ["\x7b", list importSpecifier, opt ",", "\x7d"]),
  (importSpecifier, all [opt (any ["type", "typeof"]), any [
    role .name identifier,
    all [role .name (any [exportName, "type"]), "as", importName]]]),
  (importAttribute, all ["with", object]),
  (importName, any [identifier, "type"]),
  (importRequireClause, all [identifier, "=", "require", "(", stringLiteral, ")"]),
  (importAlias, all ["import", identifier, "=", any [identifier, nestedIdentifier], semicolon])]

end ModelSchema.Grammar
