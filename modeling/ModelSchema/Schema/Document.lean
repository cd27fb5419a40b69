import ModelSchema.Schema.Block
import ModelSchema.Text.Timestamp
import ModelSchema.Text.Digest

/-!
# Schema documents

A document is a preamble, a banner with the time at which it was made, and one block per model of
the registry. Documents that differ in that time only have the same fingerprint.

## Main definitions

* `Schema.finish` — the normal form of a document's white space.
* `Schema.banner`, `Schema.defaultPreamble` — the fixed parts.
* `Schema.document` — the document of a registry.
* `Schema.untimed`, `Schema.fingerprint` — a document without its time, and the digest of that.
-/

namespace ModelSchema.Schema

open Text

/-- The text without blanks at the ends of its lines and with exactly one line feed at its end. -/
def finish (cs : List Char) : List Char :=
  trimEnd (unlines ((lines cs).map trimEnd)) ++ ['\n']

/-- What the banner line with the time starts with. -/
def timePrefix : String := "// Generated at: "

/-- The lines between the preamble and the models. -/
def banner (time : Timestamp) : String :=
  "// Models below are generated from TypeScript declarations by prisma-typegen.\n" ++
  "// Edits below this banner are overwritten on the next run; the blocks above are kept.\n" ++
  timePrefix ++ time.render

/-- The generator and datasource blocks of a fresh schema. -/
def defaultPreamble (provider urlVariable : String) : String :=
  "generator client \x7b\n  provider = \"prisma-client-js\"\n\x7d\n\ndatasource db \x7b\n" ++
  "  provider = \"" ++ provider ++ "\"\n  url      = env(\"" ++ urlVariable ++ "\")\n\x7d"

/-- The document before its white space is brought into normal form. -/
def draft (r : Registry) (includeDocs : Bool) (preamble : String) (time : Timestamp) :
    List Char :=
  trimEnd preamble.toList ++ "\n\n".toList ++ (banner time).toList ++ ['\n'] ++
    r.models.flatMap fun m => '\n' :: (m.block r includeDocs).render.toList ++ ['\n']

/-- The schema document of a registry. -/
def document (r : Registry) (includeDocs : Bool) (preamble : String) (time : Timestamp) :
    String :=
  String.ofList (finish (draft r includeDocs preamble time))

/-- Whether a line tells the time at which a document was made. -/
def isTimeLine (line : List Char) : Bool := timePrefix.toList.isPrefixOf line

/-- A document without the lines that tell its time. -/
def untimed (cs : List Char) : List Char :=
  unlines ((lines cs).filter (!isTimeLine ·))

/-- A document without the lines that tell its time. -/
def untimedOf (s : String) : String := String.ofList (untimed s.toList)

/-- The digest of a document, whatever its time. -/
def fingerprint (s : String) : String := Digest.hexOf (untimedOf s)

end ModelSchema.Schema
