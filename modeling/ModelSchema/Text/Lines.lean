import ModelSchema.Text.Blank

/-!
# Lines

A line ends at a line feed; a carriage return directly before that line feed belongs to the line
end. A text that ends with a line feed has no further, empty line behind it, and a last line
without a line feed keeps a carriage return at its end.

## Main definitions

* `Text.lines` — the lines of a text, without their line ends.
* `Text.unlines` — lines put together with one line feed between neighbours.
-/

namespace ModelSchema.Text

/-- `cs` without one carriage return at its end. -/
def dropReturn (cs : List Char) : List Char :=
  if cs.getLast? = some '\r' then cs.dropLast else cs

/-- The lines among the pieces between line feeds: every piece but the last was ended by one. -/
def endedLines : List (List Char) → List (List Char)
  | [] => []
  | [last] => if last.isEmpty then [] else [last]
  | piece :: rest => dropReturn piece :: endedLines rest

/-- The lines of `cs`, without their line ends. -/
def lines (cs : List Char) : List (List Char) :=
  endedLines (cut (· == '\n') cs)

/-- The lines with one line feed between each two neighbours. -/
def unlines (ls : List (List Char)) : List Char :=
  joinWith ['\n'] ls

/-- The lines of a string. -/
def linesOf (s : String) : List String :=
  (lines s.toList).map String.ofList

/-- The strings with one line feed between each two neighbours. -/
def unlinesOf (ls : List String) : String :=
  "\n".intercalate ls

end ModelSchema.Text
