import ModelSchema.Grammar.Names

/-!
# Elements

Elements in angle brackets, as the one dialect has them.
-/

namespace ModelSchema.Grammar

open Rule Notion Lexeme Signal

def elementName : Rule := any [hyphenatedName, identifier]

/-- An element of either form. -/
def anyElement : Rule := any [element, selfClosingElement]

/-- The start of an element up to the mark that closes it. -/
def elementStart : Rule :=
  all ["<", opt (all [
    any [role .name (any [elementName, namespacedName]),
      all [role .name (any [identifier, nestedIdentifier]), opt typeArguments]],
    many (any [elementAttribute, elementExpression])])]

/-- The rules of elements. -/
def elementRules : List (Notion × Rule) := [
  (element, all [openingElement,
    many (any [elementText, characterReference, anyElement, elementExpression]),
    closingElement]),
  (elementExpression, all ["\x7b", opt (any [expression, sequenceExpression, spreadElement]),
    "\x7d"]),
  (openingElement, bonus (-1) (all [elementStart, ">"])),
  (closingElement, all ["</",
    opt (role .name (any [elementName, nestedIdentifier, namespacedName])), ">"]),
  (selfClosingElement, bonus (-1) (all [elementStart, "/>"])),
  (namespacedName, all [elementName, ":", elementName]),
  (elementAttribute, all [any [elementName, namespacedName],
    opt (all ["=", any [labeled .node attributeString, elementExpression, anyElement]])]),
  (attributeString, any [
    all ["\"", many (any [doubleQuotedAttribute, characterReference]), "\""],
    all ["'", many (any [singleQuotedAttribute, characterReference]), "'"]])]

end ModelSchema.Grammar
