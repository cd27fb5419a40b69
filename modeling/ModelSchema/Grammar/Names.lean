import ModelSchema.Grammar.Rule

/-!
# Names and ends of statements

The small rules that all other rules share: what may serve as a name, and what ends a statement.
-/

namespace ModelSchema.Grammar

open Rule Notion Lexeme Signal

/-- A word that is a keyword in some places and a name in others. -/
def softKeyword : Rule :=
  any ["declare", "namespace", "type", "public", "private", "protected", "override", "readonly",
    "module", "any", "number", "boolean", "string", "symbol", "export", "object", "new", "get",
    "set", "async", "static", "let"]

/-- A name in an expression. -/
def plainName : Rule := any ["undefined", identifier]

/-- A name that may be a soft keyword. -/
def looseName : Rule := any [identifier, softKeyword]

/-- The name of a type. -/
def typeName : Rule := labeled .typeName identifier

/-- The end of a statement. -/
def semicolon : Rule := any [lineEnd, ";"]

/-- What may be assigned to. -/
def target : Rule :=
  any [memberExpression, subscriptExpression, plainName, softKeyword, destructuringPattern,
    nonNullExpression]

/-- An expression, or several with commas between. -/
def expressions : Rule := any [expression, sequenceExpression]

/-- A type behind a colon, in the role of a type. -/
def typed : Rule := role .type (opt typeAscription)

end ModelSchema.Grammar
