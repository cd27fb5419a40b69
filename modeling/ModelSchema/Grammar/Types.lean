import ModelSchema.Grammar.Names

/-!
# Types
-/

namespace ModelSchema.Grammar

open Rule Notion Lexeme Signal

/-- The rules of types. -/
def typeRules : List (Notion × Rule) := [
  (type, any [primaryType, functionType, readonlyType, constructorType, inferType,
    ranked (.level (-1)) (labeled .node importedMember),
    ranked (.level (-1)) (labeled .node importedCall)]),
  (primaryType, any [parenthesizedType, predefinedType, typeName, qualifiedTypeName, genericType,
    objectType, arrayType, tupleType, maybeType, typeQuery, indexTypeQuery, "this",
    existentialType, literalType, lookupType, conditionalType, templateLiteralType,
    intersectionType, unionType, "const"]),
  (predefinedType, any ["any", "number", "boolean", "string", all ["unique", "symbol"], "symbol",
    "void", "unknown", "never", "object"]),
  (qualifiedTypeName, ranked .member
    (all [any [identifier, nestedIdentifier], ".", role .name typeName])),
  (genericType, ranked .call (all [role .name (any [typeName, qualifiedTypeName]),
    typeArguments])),
  (typeArguments, all ["<", list1 type, opt ",", ">"]),
  (parenthesizedType, all ["(", type, ")"]),
  (arrayType, all [primaryType, "[", "]"]),
  (lookupType, all [primaryType, "[", type, "]"]),
  (existentialType, "*"),
  (maybeType, leaning .right (all ["?", primaryType])),
  (readonlyType, all ["readonly", type]),
  (indexTypeQuery, all ["keyof", primaryType]),
  (unionType, leaning .left (all [opt type, "|", type])),
  (intersectionType, leaning .left (all [opt type, "&", type])),
  (conditionalType, leaning .right (all [type, "extends", type, "?", type, ":", type])),
  (inferType, leaning .right (all ["infer", typeName, opt (all ["extends", type])])),
  (functionType, leaning .left (all [opt typeParameters, formalParameters, "=>",
    any [type, assertion, typePredicate]])),
  (constructorType, leaning .left (all [opt "abstract", "new", opt typeParameters,
    formalParameters, "=>", role .type type]))]

/-- The rules of types that spell a value. -/
def literalTypeRules : List (Notion × Rule) := [
  (literalType, any [labeled .node signedNumber, number, stringLiteral, "true", "false", "null",
    "undefined"]),
  (signedNumber, leaning .left (ranked (.level 1) (all [any ["-", "+"], number]))),
  (templateLiteralType, all ["`", many (any [labeled .node templateText, templateType]), "`"]),
  (templateType, all ["$\x7b", any [primaryType, inferType], "\x7d"])]

/-- The rules of tuples. -/
def tupleRules : List (Notion × Rule) := [
  (tupleType, all ["[", list tupleMember, opt ",", "]"]),
  (tupleMember, any [tupleParameter, optionalTupleParameter, optionalType, restType, type]),
  (tupleParameter, all [role .name (any [identifier, restPattern]),
    role .type typeAscription]),
  (optionalTupleParameter, all [role .name identifier, "?", role .type typeAscription]),
  (optionalType, all [type, "?"]),
  (restType, all ["...", type])]

/-- The rules of parameters of types. -/
def typeParameterRules : List (Notion × Rule) := [
  (typeParameters, all ["<", list1 typeParameter, opt ",", ">"]),
  (typeParameter, all [opt "const", role .name typeName, opt constraint,
    role .value (opt defaultType)]),
  (defaultType, all ["=", type]),
  (constraint, all [any ["extends", ":"], type])]

/-- What a queried value may be reached from. -/
def queryObject : Rule :=
  any [identifier, "this", labeled .node querySubscript, labeled .node queryMember,
    labeled .node queryCall]

/-- What may be called or applied in a query. -/
def queryFunction : Rule :=
  any [importKeyword, identifier, labeled .node queryMember, labeled .node querySubscript]

/-- The rules of types that are asked of a value. -/
def typeQueryRules : List (Notion × Rule) := [
  (typeQuery, leaning .right (all ["typeof", any [labeled .node querySubscript,
    labeled .node queryMember, labeled .node queryCall, labeled .node queryInstantiation,
    identifier, "this"]])),
  (queryMember, all [queryObject, any [".", "?."],
    any [privateName, identifier]]),
  (querySubscript, all [queryObject, opt "?.", "[",
    any [predefinedType, stringLiteral, number], "]"]),
  (queryCall, all [queryFunction, arguments]),
  (queryInstantiation, all [queryFunction, typeArguments]),
  (importedMember, all [any [importKeyword, labeled .node importedMember,
    labeled .node importedCall], ".", any [privateName, identifier]]),
  (importedCall, all [any [importKeyword, labeled .node importedMember], arguments])]

end ModelSchema.Grammar
