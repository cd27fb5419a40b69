import ModelSchema.Schema.Document
import ModelSchema.Text.Word

/-!
# Preambles

The configuration blocks at the head of a schema. They are recovered from an existing document
verbatim: a block starts at the beginning of a line with `generator` or `datasource`, a name and
an opening brace, and ends at the first closing brace that stands at the beginning of a line.

## Main definitions

* `Preamble.blocks` — the configuration blocks of a document.
* `Preamble.recover?` — these blocks with an empty line between neighbours.
* `Preamble.load` — the preamble of the next document.
-/

namespace ModelSchema

/-- Where a preamble came from. -/
inductive PreambleOrigin where
  | preserved
  | default
deriving DecidableEq, Repr

/-- The head of a schema document. -/
structure Preamble where
  text : String
  origin : PreambleOrigin
deriving DecidableEq, Repr

namespace Preamble

open Text

/-- The words that start a configuration block. -/
def keywords : List (List Char) := ["generator".toList, "datasource".toList]

/-- The length of the header of a configuration block at the front of a text, through its opening
brace. -/
def headerLength? (cs : List Char) : Option Nat :=
  keywords.findSome? fun keyword =>
    (keyword.isPrefixOf? cs).bind fun rest =>
      let gap := rest.takeWhile isBlank
      let rest := rest.dropWhile isBlank
      let name := rest.takeWhile isWordChar
      let rest := rest.dropWhile isWordChar
      let space := rest.takeWhile isBlank
      if gap ≠ [] ∧ name ≠ [] ∧ (rest.dropWhile isBlank).head? = some '\x7b' then
        some (keyword.length + gap.length + name.length + space.length + 1)
      else none

/-- The length of a text through its first closing brace directly behind a line feed. -/
def closingLength? : List Char → Option Nat
  | [] => none
  | c :: cs =>
    if c = '\n' ∧ cs.head? = some '\x7d' then some 2
    else (closingLength? cs).map (· + 1)

/-- The length of the configuration block at the front of a text. -/
def blockLength? (cs : List Char) : Option Nat :=
  (headerLength? cs).bind fun n => (closingLength? (cs.drop n)).map (n + ·)

/-- The configuration blocks of a text that starts at the beginning of a line or inside one. -/
def blocksFrom (atLineStart : Bool) : List Char → List (List Char)
  | [] => []
  | c :: cs =>
    match (if atLineStart then blockLength? (c :: cs) else none) with
    | some (n + 1) => (c :: cs.take n) :: blocksFrom false (cs.drop n)
    | _ => blocksFrom (c == '\n') cs
termination_by cs => cs.length
decreasing_by all_goals simp only [List.length_cons, List.length_drop]; omega

/-- The configuration blocks of a document, in order. -/
def blocks (cs : List Char) : List (List Char) := blocksFrom true cs

/-- The configuration blocks of a document with an empty line between neighbours, if there are
any. -/
def recover? (existing : String) : Option String :=
  match blocks existing.toList with
  | [] => none
  | bs => some (String.ofList (joinWith ['\n', '\n'] bs))

/-- The preamble of the next document: that of the existing one if it is to be kept and has any
block, and a fresh one otherwise. -/
def load (keep : Bool) (provider urlVariable : String) (existing : Option String) : Preamble :=
  match (if keep then existing.bind recover? else none) with
  | some text => ⟨text, .preserved⟩
  | none => ⟨Schema.defaultPreamble provider urlVariable, .default⟩

end Preamble

end ModelSchema
