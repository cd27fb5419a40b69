/-!
# Source texts

A source text by position: its characters, and how many bytes and lines lie before each one.

## Main definitions

* `SourceText` — a text with these counts.
* `Spanned` — something found in it.
-/

namespace ModelSchema.Parsing

/-- Something found in a source text, with its start and its end. -/
structure Spanned (α : Type) where
  value : α
  start : Nat
  stop : Nat
deriving Repr

/-- A source text with counts before each position, the one behind the last character included. -/
structure SourceText where
  chars : Array Char
  bytesBefore : Array Nat
  linesBefore : Array Nat

namespace SourceText

/-- The counts before each position, for what each character adds. -/
def countsBefore (weight : Char → Nat) (chars : Array Char) : Array Nat :=
  (chars.foldl (fun (counts, n) c => (counts.push (n + weight c), n + weight c))
    ((Array.emptyWithCapacity (chars.size + 1)).push 0, 0)).1

def ofString (text : String) : SourceText :=
  let chars := text.toList.toArray
  ⟨chars, countsBefore (fun c => c.utf8Size) chars,
    countsBefore (fun c => if c = '\n' then 1 else 0) chars⟩

variable (s : SourceText)

def size : Nat := s.chars.size

/-- The character at a position; behind the end, the null character. -/
def charAt (position : Nat) : Char := s.chars.getD position '\x00'

def bytes (start stop : Nat) : Nat := s.bytesBefore.getD stop 0 - s.bytesBefore.getD start 0

def line (position : Nat) : Nat := s.linesBefore.getD position 0

def lines (start stop : Nat) : Nat := s.line stop - s.line start

/-- The characters between two positions. -/
def between (start stop : Nat) : List Char := (s.chars.extract start stop).toList

/-- The first position from one on where a character does not pass a test. -/
def skipWhile (test : Char → Bool) (position : Nat) : Nat := Id.run do
  for i in [position:s.size] do
    if !test (s.charAt i) then return i
  return max position s.size

/-- Whether a text stands at a position. -/
def hasAt (position : Nat) (text : List Char) : Bool :=
  match text with
  | [] => true
  | c :: rest => s.charAt position == c && hasAt (position + 1) rest

end SourceText

end ModelSchema.Parsing
