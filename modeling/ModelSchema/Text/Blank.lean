import ModelSchema.Text.Cut

/-!
# White space

The characters with the Unicode property `White_Space`, and the operations on text that look at
nothing but white space.

## Main definitions

* `Text.isBlank` — the 25 characters of `White_Space`.
* `Text.trimStart`, `Text.trimEnd`, `Text.trim` — a text without the blanks around it.
* `Text.words` — the maximal runs of other characters.
* `Text.compact` — a text without any blanks.
* `Text.collapse` — the words with one space between neighbours.
-/

namespace ModelSchema.Text

/-- Whether `c` has the Unicode property `White_Space`. -/
def isBlank (c : Char) : Bool :=
  let n := c.toNat
  (0x9 ≤ n && n ≤ 0xD) || n == 0x20 || n == 0x85 || n == 0xA0 || n == 0x1680 ||
    (0x2000 ≤ n && n ≤ 0x200A) || n == 0x2028 || n == 0x2029 || n == 0x202F || n == 0x205F ||
    n == 0x3000

/-- `cs` without the characters at its front that satisfy `p`. -/
def trimStartBy (p : Char → Bool) (cs : List Char) : List Char :=
  cs.dropWhile p

/-- `cs` without the characters at its end that satisfy `p`. -/
def trimEndBy (p : Char → Bool) (cs : List Char) : List Char :=
  (cs.reverse.dropWhile p).reverse

/-- `cs` without the characters at both ends that satisfy `p`. -/
def trimBy (p : Char → Bool) (cs : List Char) : List Char :=
  trimEndBy p (trimStartBy p cs)

def trimStart : List Char → List Char := trimStartBy isBlank

def trimEnd : List Char → List Char := trimEndBy isBlank

def trim : List Char → List Char := trimBy isBlank

theorem length_trimStartBy_le (p : Char → Bool) (cs : List Char) :
    (trimStartBy p cs).length ≤ cs.length :=
  (List.dropWhile_sublist p).length_le

theorem length_trimEndBy_le (p : Char → Bool) (cs : List Char) :
    (trimEndBy p cs).length ≤ cs.length := by
  simpa [trimEndBy, trimStartBy] using length_trimStartBy_le p cs.reverse

theorem length_trim_le (cs : List Char) : (trim cs).length ≤ cs.length :=
  Nat.le_trans (length_trimEndBy_le _ _) (length_trimStartBy_le _ _)

/-- The maximal runs of characters that are not blank. -/
def words (cs : List Char) : List (List Char) :=
  (cut isBlank cs).filter (!·.isEmpty)

/-- `cs` without its blanks. -/
def compact (cs : List Char) : List Char :=
  cs.filter (!isBlank ·)

/-- The words of `cs` with one space between each two neighbours. -/
def collapse (cs : List Char) : List Char :=
  joinWith [' '] (words cs)

theorem not_isBlank_of_mem_words {cs word : List Char} (h : word ∈ words cs) {c : Char}
    (hc : c ∈ word) : isBlank c = false :=
  not_of_mem_cut (List.mem_filter.1 h).1 hc

theorem ne_nil_of_mem_words {cs word : List Char} (h : word ∈ words cs) : word ≠ [] := by
  have := (List.mem_filter.1 h).2
  intro hw
  simp [hw] at this

end ModelSchema.Text
