import ModelSchema.Text.Lines

/-!
# Doc comments

A doc comment is a block comment that opens with two stars. Its text is that of its lines without
the stars in front of them and without blanks around them; empty lines are left out.

## Main definitions

* `Doc.isDoc` — whether a comment is a doc comment.
* `Doc.clean` — the text of one.
-/

namespace ModelSchema.Doc

open Text

/-- Whether a comment is a doc comment. -/
def isDoc (comment : List Char) : Bool := "/**".toList.isPrefixOf comment

/-- The text of a line of a doc comment. -/
def cleanLine (line : List Char) : List Char :=
  trim (trimStartBy (· == '*') (trim line))

/-- The lines of the text of a doc comment. -/
def cleanLines (comment : List Char) : List (List Char) :=
  let inner := dropAllAtEnd "*/".toList (dropAllAtFront "/**".toList comment)
  ((lines inner).map cleanLine).filter (!·.isEmpty)

/-- The text of a doc comment. -/
def clean (comment : List Char) : List Char := unlines (cleanLines comment)

end ModelSchema.Doc
