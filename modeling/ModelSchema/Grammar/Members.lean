import ModelSchema.Grammar.Names

/-!
# Functions, classes and their members
-/

namespace ModelSchema.Grammar

open Rule Notion Lexeme Signal

/-! ## Functions -/

/-- The words and the mark before the name of an accessor or a generator. -/
def accessor : Rule := opt (any ["get", "set", "*"])

/-- The rules of functions and their parameters. -/
def functionRules : List (Notion × Rule) := [
  (functionExpression, ranked .literal
    (all [opt "async", "function", role .name (opt identifier), signature,
      role .body statementBlock])),
  (functionDeclaration, leaning .right (ranked .declaration
    (all [opt "async", "function", role .name identifier, signature, role .body statementBlock,
      opt lineEnd]))),
  (generatorFunction, ranked .literal
    (all [opt "async", "function", "*", role .name (opt identifier), signature,
      role .body statementBlock])),
  (generatorDeclaration, leaning .right (ranked .declaration
    (all [opt "async", "function", "*", role .name identifier, signature,
      role .body statementBlock, opt lineEnd]))),
  (arrowFunction, all [opt "async", any [looseName, signature], "=>",
    role .body (any [expression, statementBlock])]),
  (functionSignature, all [opt "async", "function", role .name identifier, signature,
    any [semicolon, signatureEnd]]),
  (signature, all [opt typeParameters, formalParameters,
    opt (any [typeAscription, assertionAscription, predicateAscription])]),
  (formalParameters, all ["(", opt (all [list1 formalParameter, opt ","]), ")"]),
  (formalParameter, any [requiredParameter, optionalParameter]),
  (requiredParameter, all [parameterName, typed, opt initializer]),
  (optionalParameter, all [parameterName, "?", typed, opt initializer]),
  (parameterName, all [many decorator, opt accessibility, opt overrideModifier, opt "readonly",
    any [pattern, "this"]]),
  (accessibility, any ["public", "private", "protected"]),
  (overrideModifier, "override")]

/-- The rules of decorators. -/
def decoratorRules : List (Notion × Rule) := [
  (decorator, all ["@",
    any [identifier, decoratorMember, decoratorCall, decoratorParenthesized]]),
  (decoratorMember, ranked .member (all [any [identifier, decoratorMember], ".", identifier])),
  (decoratorCall, ranked .call
    (all [any [identifier, decoratorMember], opt typeArguments, arguments])),
  (decoratorParenthesized, all ["(", any [identifier, decoratorMember, decoratorCall], ")"])]

/-! ## Classes -/

/-- What follows the word `class` in a class with a name. -/
def namedClass : Rule :=
  all [role .name typeName, opt typeParameters, opt classHeritage, role .body classBody]

/-- The rules of classes. -/
def classRules : List (Notion × Rule) := [
  (classExpression, ranked .literal (all [many decorator, "class", role .name (opt typeName),
    opt typeParameters, opt classHeritage, role .body classBody])),
  (classDeclaration, leaning .left (ranked .declaration
    (all [many decorator, "class", namedClass, opt lineEnd]))),
  (abstractClassDeclaration, ranked .declaration
    (all [many decorator, "abstract", "class", namedClass])),
  (classHeritage, any [all [extendsClause, opt implementsClause], implementsClause]),
  (extendsClause, all ["extends", list1 extendedClass]),
  (extendedClass, ranked .extended (all [role .value expression, opt typeArguments])),
  (implementsClause, all ["implements", list1 type]),
  (classBody, all ["\x7b", many (any [
    all [many decorator, methodDefinition, opt semicolon],
    all [methodSignature, any [signatureEnd, ","]],
    staticBlock,
    all [any [abstractMethodSignature, indexSignature, methodSignature, fieldDefinition],
      any [semicolon, ","]],
    ";"]), "\x7d"]),
  (staticBlock, all ["static", role .body statementBlock])]

/-- The words before a method. -/
def methodModifiers : Rule :=
  all [opt accessibility, opt "static", opt overrideModifier, opt "readonly", opt "async",
    accessor]

/-- The rules of members of classes. -/
def memberRules : List (Notion × Rule) := [
  (methodDefinition, leaning .left (all [methodModifiers, role .name propertyName, opt "?",
    signature, role .body statementBlock])),
  (methodSignature, all [methodModifiers, role .name propertyName, opt "?", signature]),
  (abstractMethodSignature, all [opt accessibility, "abstract", opt overrideModifier, accessor,
    role .name propertyName, opt "?", signature]),
  (fieldDefinition, all [many decorator,
    opt (any [all ["declare", opt accessibility], all [accessibility, opt "declare"]]),
    any [
      all [opt "static", opt overrideModifier, opt "readonly"],
      all [opt "abstract", opt "readonly"],
      all [opt "readonly", opt "abstract"],
      opt "accessor"],
    role .name propertyName, opt (any ["?", "!"]), typed, opt initializer]),
  (propertyName, any [looseName, privateName, stringLiteral, number, computedName]),
  (computedName, all ["[", expression, "]"])]

end ModelSchema.Grammar
