import ModelSchema.Text.HiddenTable
import ModelSchema.Text.LowerCase

/-!
# Quoted strings

Two quoted forms: the one of JSON, and a diagnostic one that shows every hidden character by its
number, so that a reader of a terminal can tell what a string holds.

## Main definitions

* `Text.jsonQuoted` — a JSON string.
* `Text.shown` — the diagnostic form of a string.
* `Text.shownList` — the diagnostic form of a list of strings.
-/

namespace ModelSchema.Text

/-- A number in hexadecimal digits. -/
def hex (n : Nat) : List Char := Nat.toDigits 16 n

/-- A character inside a JSON string. -/
def jsonChar (c : Char) : List Char :=
  match c with
  | '"' => ['\\', '"']
  | '\\' => ['\\', '\\']
  | '\n' => ['\\', 'n']
  | '\r' => ['\\', 'r']
  | '\t' => ['\\', 't']
  | _ =>
    if c.toNat = 8 then ['\\', 'b']
    else if c.toNat = 12 then ['\\', 'f']
    else if c.toNat < 32 then
      let digits := hex c.toNat
      ['\\', 'u'] ++ List.replicate (4 - digits.length) '0' ++ digits
    else [c]

/-- A JSON string. -/
def jsonQuoted (s : String) : String :=
  String.ofList ('"' :: s.toList.flatMap jsonChar ++ ['"'])

/-- Whether `c` leaves no mark of its own. -/
def isHidden (c : Char) : Bool := inRanges hiddenRanges c.toNat

/-- A character inside the diagnostic form. -/
def shownChar (c : Char) : List Char :=
  match c with
  | '"' => ['\\', '"']
  | '\\' => ['\\', '\\']
  | '\n' => ['\\', 'n']
  | '\r' => ['\\', 'r']
  | '\t' => ['\\', 't']
  | _ =>
    if c.toNat = 0 then ['\\', '0']
    else if isHidden c then ['\\', 'u', '\x7b'] ++ hex c.toNat ++ ['\x7d']
    else [c]

/-- The diagnostic form of a string. -/
def shown (s : String) : String :=
  String.ofList ('"' :: s.toList.flatMap shownChar ++ ['"'])

/-- The diagnostic form of a list of strings. -/
def shownList (ss : List String) : String :=
  "[" ++ ", ".intercalate (ss.map shown) ++ "]"

end ModelSchema.Text
