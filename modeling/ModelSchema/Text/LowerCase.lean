import ModelSchema.Text.CaseTable

/-!
# Lower case

The full Unicode lower-case mapping. A capital sigma that ends a word becomes the final form of
the letter; every other character is mapped on its own.

## Main definitions

* `Text.lowerChar` — the mapping of one character.
* `Text.lower` — the mapping of a text.
* `Text.lowerFirst` — a text with only its first character mapped.
-/

namespace ModelSchema.Text

/-- Whether `n` lies in one of the ranges. -/
def inRanges (ranges : List (Nat × Nat)) (n : Nat) : Bool :=
  ranges.any fun r => r.1 ≤ n && n ≤ r.2

/-- The lower-case letter of `n` in the run, if the run holds `n`. -/
def LowerRun.shift? (r : LowerRun) (n : Nat) : Option Nat :=
  if r.first ≤ n ∧ n ≤ r.last ∧ (n - r.first) % r.step = 0 then some (r.target + (n - r.first))
  else none

/-- The lower-case form of one character; the dotted capital I has one of two characters. -/
def lowerChar (c : Char) : List Char :=
  if c.toNat < 0x80 then [c.toLower]
  else if c.toNat = 0x130 then ['i', Char.ofNat 0x307]
  else match lowerRuns.findSome? (·.shift? c.toNat) with
    | some n => [Char.ofNat n]
    | none => [c]

def isCased (c : Char) : Bool := inRanges casedRanges c.toNat

def isCaseIgnorable (c : Char) : Bool := inRanges caseIgnorableRanges c.toNat

/-- Whether a cased letter comes first once the case-ignorable characters are skipped. -/
def meetsCased (cs : List Char) : Bool :=
  match cs.dropWhile isCaseIgnorable with
  | [] => false
  | c :: _ => isCased c

/-- The lower-case form of a text whose preceding characters, nearest first, are `before`. -/
def lowerAfter (before : List Char) : List Char → List Char
  | [] => []
  | c :: cs =>
    (if c = 'Σ' then
      if meetsCased before && !meetsCased cs then ['ς'] else ['σ']
    else lowerChar c) ++ lowerAfter (c :: before) cs

/-- The lower-case form of a text. -/
def lower (cs : List Char) : List Char := lowerAfter [] cs

/-- The lower-case form of a string. -/
def lowerOf (s : String) : String := String.ofList (lower s.toList)

/-- A text with its first character in lower case. -/
def lowerFirst : List Char → List Char
  | [] => []
  | c :: cs => lowerChar c ++ cs

/-- A string with its first character in lower case. -/
def lowerFirstOf (s : String) : String := String.ofList (lowerFirst s.toList)

/-- Whether two texts agree up to the case of ASCII letters. -/
def sameIgnoringAsciiCase (s t : String) : Bool :=
  s.toList.map Char.toLower == t.toList.map Char.toLower

end ModelSchema.Text
