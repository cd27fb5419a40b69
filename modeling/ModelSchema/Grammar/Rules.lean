import ModelSchema.Grammar.Declarations
import ModelSchema.Grammar.Elements
import ModelSchema.Grammar.Expressions
import ModelSchema.Grammar.Members
import ModelSchema.Grammar.Modules
import ModelSchema.Grammar.Statements
import ModelSchema.Grammar.Types

/-!
# The grammar

All rules of a dialect, one for each notion that it knows.

## Main definitions

* `rules` — the rules of a dialect.
-/

namespace ModelSchema.Grammar

/-- The rules that both dialects have. -/
def commonRules (d : Dialect) : List (Notion × Rule) :=
  statementRules ++ controlRules ++ exportRules ++ importRules ++ namespaceRules ++
    expressionRules d ++ operatorRules ++ literalRules ++ patternRules ++
    functionRules ++ decoratorRules ++ classRules ++ memberRules ++
    declarationRules ++ objectTypeRules ++
    typeRules ++ literalTypeRules ++ tupleRules ++ typeParameterRules ++ typeQueryRules

/-- The rules of a dialect. -/
def rules : Dialect → List (Notion × Rule)
  | .plain => commonRules .plain
  | .jsx => commonRules .jsx ++ elementRules

end ModelSchema.Grammar
