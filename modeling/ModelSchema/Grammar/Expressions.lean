import ModelSchema.Grammar.Names

/-!
# Expressions
-/

namespace ModelSchema.Grammar

open Rule Notion Lexeme Signal

/-- The rule of an operator between two expressions. -/
def operation (side : Side) (rank : Rank) (left : Rule) (operator : String) : Rule :=
  leaning side (ranked rank (all [left, operator, expression]))

/-- The operators of one rank, which group to the left. -/
def operations (rank : Rank) (operators : List String) : List Rule :=
  operators.map (operation .left rank expression)

/-- The rules of expressions with operators. -/
def operatorRules : List (Notion × Rule) := [
  (awaitExpression, ranked .unaryVoid (all ["await", expression])),
  (yieldExpression, leaning .right (all ["yield", any [all ["*", expression], opt expression]])),
  (memberExpression, ranked .member (all [any [expression, primaryExpression, importKeyword],
    any [".", optionalChain], any [privateName, identifier]])),
  (subscriptExpression, leaning .right (ranked .member (all [any [expression, primaryExpression],
    opt optionalChain, "[", expressions, "]"]))),
  (optionalChain, "?."),
  (callExpression, any [
    ranked .call (all [any [expression, importKeyword], opt typeArguments, arguments]),
    ranked .templateCall (all [any [primaryExpression, newExpression], templateString]),
    ranked .member (all [primaryExpression, "?.", opt typeArguments, arguments])]),
  (newExpression, leaning .right
    (ranked .new (all ["new", primaryExpression, opt typeArguments, opt arguments]))),
  (assignmentExpression, leaning .right (ranked .assign (all [opt "using",
    any [parenthesizedExpression, target], "=", expression]))),
  (augmentedTarget, any [memberExpression, subscriptExpression, softKeyword, identifier,
    parenthesizedExpression, nonNullExpression]),
  (augmentedAssignment, leaning .right (ranked .assign (all [augmentedTarget,
    any ["+=", "-=", "*=", "/=", "%=", "^=", "&=", "|=", ">>=", ">>>=", "<<=", "**=", "&&=",
      "||=", "??="],
    expression]))),
  (ternaryExpression, leaning .right (ranked .ternary
    (all [expression, labeled .node questionMark, expression, ":", expression]))),
  (binaryExpression, any (
    operations .logicalAnd ["&&"] ++ operations .logicalOr ["||"] ++
    operations .shift [">>", ">>>", "<<"] ++ operations .bitAnd ["&"] ++
    operations .bitXor ["^"] ++ operations .bitOr ["|"] ++ operations .plus ["+", "-"] ++
    operations .times ["*", "/", "%"] ++ [operation .right .exponent expression "**"] ++
    operations .comparison ["<", "<="] ++ operations .equality ["==", "===", "!=", "!=="] ++
    operations .comparison [">=", ">"] ++ operations .ternary ["??"] ++
    operations .comparison ["instanceof"] ++
    [operation .left .comparison (any [expression, privateName]) "in"])),
  (unaryExpression, leaning .left (ranked .unaryVoid
    (all [any ["!", "~", "-", "+", "typeof", "void", "delete"], expression]))),
  (updateExpression, leaning .left (any [
    all [expression, any ["++", "--"]],
    all [any ["++", "--"], expression]])),
  (sequenceExpression, leaning .right (list1 expression)),
  (nonNullExpression, leaning .left (ranked .unary (all [expression, "!"]))),
  (typeAssertion, leaning .left (ranked .unary (all [typeArguments, expression]))),
  (asExpression, leaning .left (ranked .binary (all [expression, "as", any ["const", type]]))),
  (satisfiesExpression, leaning .left
    (ranked .binary (all [expression, "satisfies", type]))),
  (instantiationExpression, ranked .instantiation (all [expression, typeArguments]))]

/-- Expressions with operators, and functions with arrows. -/
def operatorForms : List Rule := [assignmentExpression, augmentedAssignment, awaitExpression,
  unaryExpression, binaryExpression, ternaryExpression, updateExpression, newExpression,
  yieldExpression, arrowFunction]

/-- What only one dialect has among expressions. -/
def dialectForms : Dialect → List Rule
  | .plain => [typeAssertion, primaryExpression]
  | .jsx => [primaryExpression, element, selfClosingElement]

/-- What an expression may be. -/
def expressionForms (d : Dialect) : List Rule :=
  asExpression :: satisfiesExpression :: instantiationExpression :: namespaceDeclaration ::
    (dialectForms d ++ operatorForms)

/-- The rules of what expressions are made of. -/
def expressionRules (d : Dialect) : List (Notion × Rule) := [
  (parenthesizedExpression,
    all ["(", any [all [expression, typed], sequenceExpression], ")"]),
  (expression, any (expressionForms d)),
  (primaryExpression, any [subscriptExpression, memberExpression, parenthesizedExpression,
    plainName, softKeyword, "this", "super", number, stringLiteral, templateString, regex, "true",
    "false", "null", object, array, functionExpression, generatorFunction, classExpression,
    metaProperty, callExpression, nonNullExpression]),
  (nestedIdentifier, ranked .member
    (all [any [identifier, nestedIdentifier], ".", identifier])),
  (metaProperty, any [all ["new", ".", "target"], all ["import", ".", "meta"]]),
  (arguments, all ["(", list (opt (any [expression, spreadElement])), ")"]),
  (spreadElement, all ["...", expression])]

/-- The rules of literals. -/
def literalRules : List (Notion × Rule) := [
  (stringLiteral, any [
    all ["\"", many (any [doubleQuotedText, escape]), "\""],
    all ["'", many (any [singleQuotedText, escape]), "'"]]),
  (templateString, all ["`",
    many (any [labeled .node templateText, escape, templateSubstitution]), "`"]),
  (templateSubstitution, all ["$\x7b", expressions, "\x7d"]),
  (regex, all ["/", regexBody, regexEnd, opt regexFlags]),
  (array, all ["[", list (opt (any [expression, spreadElement])), "]"]),
  (object, ranked .object (all ["\x7b",
    list (opt (any [pair, spreadElement, methodDefinition, looseName])), "\x7d"])),
  (pair, all [propertyName, ":", role .value expression])]

/-- The rules of patterns, which take values apart. -/
def patternRules : List (Notion × Rule) := [
  (pattern, bonus (-1) (any [target, restPattern])),
  (restPattern, leaning .right (all ["...", target])),
  (objectPattern, ranked .object (all ["\x7b",
    list (opt (any [pairPattern, restPattern, objectAssignmentPattern, looseName])), "\x7d"])),
  (arrayPattern, all ["[", list (opt (any [pattern, assignmentPattern])), "]"]),
  (assignmentPattern, all [pattern, "=", expression]),
  (objectAssignmentPattern, all [any [softKeyword, identifier, destructuringPattern], "=",
    expression]),
  (pairPattern, all [propertyName, ":", role .value (any [pattern, assignmentPattern])])]

end ModelSchema.Grammar
