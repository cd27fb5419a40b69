import ModelSchema.Grammar.Names

/-!
# Statements
-/

namespace ModelSchema.Grammar

open Rule Notion Lexeme Signal

/-- The rules of simple statements and blocks. -/
def statementRules : List (Notion × Rule) := [
  (program, all [opt interpreterLine, many statement]),
  (statement, any [exportStatement, importStatement, debuggerStatement, expressionStatement,
    declaration, statementBlock, ifStatement, switchStatement, forStatement, forInStatement,
    whileStatement, doStatement, tryStatement, withStatement, breakStatement, continueStatement,
    returnStatement, throwStatement, emptyStatement, labeledStatement]),
  (expressionStatement, all [expressions, semicolon]),
  (variableDeclaration, all ["var", list1 variableDeclarator, semicolon]),
  (lexicalDeclaration, all [any ["let", "const"], list1 variableDeclarator, semicolon]),
  (variableDeclarator, any [
    all [role .name (any [identifier, destructuringPattern]), typed, opt initializer],
    ranked .declare (all [role .name identifier, "!", role .type typeAscription])]),
  (initializer, all ["=", role .value expression]),
  (destructuringPattern, any [objectPattern, arrayPattern]),
  (statementBlock, leaning .right (all ["\x7b", many statement, "\x7d", opt lineEnd])),
  (breakStatement, all ["break", opt identifier, semicolon]),
  (continueStatement, all ["continue", opt identifier, semicolon]),
  (debuggerStatement, all ["debugger", semicolon]),
  (returnStatement, all ["return", opt expressions, semicolon]),
  (throwStatement, all ["throw", expressions, semicolon]),
  (emptyStatement, ";"),
  (labeledStatement, bonus (-1) (all [looseName, ":", role .body statement]))]

/-- The rules of statements that hold others. -/
def controlRules : List (Notion × Rule) := [
  (elseClause, all ["else", statement]),
  (ifStatement, leaning .right
    (all ["if", parenthesizedExpression, statement, opt elseClause])),
  (switchStatement, all ["switch", role .value parenthesizedExpression, role .body switchBody]),
  (switchBody, all ["\x7b", many (any [switchCase, switchDefault]), "\x7d"]),
  (switchCase, all ["case", role .value expressions, ":", role .body (many statement)]),
  (switchDefault, all ["default", ":", role .body (many statement)]),
  (forStatement, all ["for", "(",
    any [lexicalDeclaration, variableDeclaration, all [expressions, ";"], emptyStatement],
    any [all [expressions, ";"], emptyStatement],
    opt expressions, ")", role .body statement]),
  (forInStatement, all ["for", opt "await", forHeader, role .body statement]),
  (forHeader, all ["(",
    any [
      target, parenthesizedExpression,
      all ["var", any [identifier, destructuringPattern], opt initializer],
      all [any ["let", "const"], any [identifier, destructuringPattern], opt lineEnd]],
    any ["in", "of"], expressions, ")"]),
  (whileStatement, all ["while", parenthesizedExpression, role .body statement]),
  (doStatement, leaning .right
    (all ["do", role .body statement, "while", parenthesizedExpression, opt semicolon])),
  (tryStatement, all ["try", role .body statementBlock, opt catchClause, opt finallyClause]),
  (catchClause, all ["catch",
    opt (all ["(", any [identifier, destructuringPattern], typed, ")"]),
    role .body statementBlock]),
  (finallyClause, all ["finally", role .body statementBlock]),
  (withStatement, all ["with", parenthesizedExpression, role .body statement])]

end ModelSchema.Grammar
