import ModelSchema.Text.WordTable
import ModelSchema.Text.LowerCase

/-!
# Word characters

## Main definitions

* `Text.isWordChar` — letters, marks, decimal digits, connecting punctuation and join controls.
-/

namespace ModelSchema.Text

/-- Whether `c` may stand in a word. -/
def isWordChar (c : Char) : Bool :=
  if c.toNat < 0x80 then c.isAlphanum || c == '_' else inRanges wordRanges c.toNat

end ModelSchema.Text
