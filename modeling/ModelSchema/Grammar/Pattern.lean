/-!
# Patterns of tokens

Regular expressions over characters, read one character at a time: what is left of a pattern
behind a character is a pattern again.

## Main definitions

* `CharSet` — a set of characters, as ranges.
* `Pattern` — regular expressions; `Pattern.Matches` says which texts one takes.
* `Pattern.isNullable`, `Pattern.after` — whether a pattern takes the empty text, and what is left
  of it behind a character.

## Main statements

* `Pattern.matches_after` — what is left of a pattern behind a character takes the texts that the
  pattern takes with that character in front.
* `Pattern.accepts_iff` — reading a text character by character tells whether a pattern takes it.
-/

namespace ModelSchema.Grammar

/-- The characters in one of some ranges, or the others. -/
structure CharSet where
  ranges : List (Char × Char)
  isComplement : Bool
deriving DecidableEq, Repr

namespace CharSet

def contains (s : CharSet) (c : Char) : Bool :=
  (s.ranges.any fun (low, high) => low ≤ c && c ≤ high) != s.isComplement

/-- The characters of a text. -/
def ofString (text : String) : CharSet := ⟨text.toList.map fun c => (c, c), false⟩

def range (low high : Char) : CharSet := ⟨[(low, high)], false⟩

def union (s t : CharSet) : CharSet := ⟨s.ranges ++ t.ranges, false⟩

/-- All characters that are not in a set. -/
def compl (s : CharSet) : CharSet := { s with isComplement := !s.isComplement }

def digits : CharSet := range '0' '9'

def hexDigits : CharSet := (digits.union (range 'a' 'f')).union (range 'A' 'F')

def asciiLetters : CharSet := (range 'a' 'z').union (range 'A' 'Z')

theorem contains_compl (s : CharSet) (c : Char) : s.compl.contains c = !s.contains c := by
  simp only [contains, compl]
  cases s.isComplement <;> simp

end CharSet

/-- A regular expression. -/
inductive Pattern where
  /-- No text at all. -/
  | never
  | empty
  | one (chars : CharSet)
  | seq (p q : Pattern)
  | alt (p q : Pattern)
  | many (p : Pattern)
deriving DecidableEq, Repr

namespace Pattern

/-! ## Building patterns -/

/-- One character of a text. -/
def oneOf (text : String) : Pattern := one (.ofString text)

/-- One character that is not in a set. The null character belongs to no token. -/
def outside (chars : CharSet) : Pattern := one (chars.union (.ofString "\x00")).compl

/-- One character that is not in a text. -/
def noneOf (text : String) : Pattern := outside (.ofString text)

def literal (text : String) : Pattern :=
  text.toList.foldr (fun c p => seq (one ⟨[(c, c)], false⟩) p) empty

def all (ps : List Pattern) : Pattern := ps.foldr seq empty

def any (ps : List Pattern) : Pattern := ps.foldr alt never

def optional (p : Pattern) : Pattern := alt p empty

def many1 (p : Pattern) : Pattern := seq p (many p)

def times : Nat → Pattern → Pattern
  | 0, _ => empty
  | n + 1, p => seq p (times n p)

def upTo : Nat → Pattern → Pattern
  | 0, _ => empty
  | n + 1, p => optional (seq p (upTo n p))

/-! ## Reading -/

/-- Whether the pattern takes the empty text. -/
def isNullable : Pattern → Bool
  | never => false
  | empty => true
  | one _ => false
  | seq p q => p.isNullable && q.isNullable
  | alt p q => p.isNullable || q.isNullable
  | many _ => true

/-- A sequence, shorter if one part is trivial. -/
def join (p q : Pattern) : Pattern :=
  match p with
  | never => never
  | empty => q
  | p => seq p q

/-- A choice, shorter if one side is trivial. -/
def either (p q : Pattern) : Pattern :=
  match p, q with
  | never, q => q
  | p, never => p
  | p, q => alt p q

/-- What is left of the pattern behind a character. -/
def after (c : Char) : Pattern → Pattern
  | never => never
  | empty => never
  | one chars => if chars.contains c then empty else never
  | seq p q =>
    if p.isNullable then either (join (p.after c) q) (q.after c) else join (p.after c) q
  | alt p q => either (p.after c) (q.after c)
  | many p => join (p.after c) (many p)

/-- Whether the pattern takes a text. -/
def accepts (p : Pattern) (text : List Char) : Bool :=
  (text.foldl (fun p c => p.after c) p).isNullable

/-! ## What a pattern takes -/

/-- A text that a pattern takes. -/
inductive Matches : Pattern → List Char → Prop where
  | empty : Matches empty []
  | one {chars : CharSet} {c : Char} (h : chars.contains c = true) : Matches (one chars) [c]
  | seq {p q : Pattern} {s t : List Char} (hp : Matches p s) (hq : Matches q t) :
      Matches (seq p q) (s ++ t)
  | left {p q : Pattern} {s : List Char} (h : Matches p s) : Matches (alt p q) s
  | right {p q : Pattern} {s : List Char} (h : Matches q s) : Matches (alt p q) s
  | stop {p : Pattern} : Matches (many p) []
  | more {p : Pattern} {s t : List Char} (hp : Matches p s) (hq : Matches (many p) t) :
      Matches (many p) (s ++ t)

theorem matches_seq {p q : Pattern} {s : List Char} :
    Matches (seq p q) s ↔ ∃ a b, s = a ++ b ∧ Matches p a ∧ Matches q b := by
  constructor
  · intro h
    cases h with
    | seq hp hq => exact ⟨_, _, rfl, hp, hq⟩
  · rintro ⟨a, b, rfl, hp, hq⟩
    exact .seq hp hq

theorem matches_alt {p q : Pattern} {s : List Char} :
    Matches (alt p q) s ↔ Matches p s ∨ Matches q s := by
  constructor
  · intro h
    cases h with
    | left h => exact .inl h
    | right h => exact .inr h
  · rintro (h | h)
    · exact .left h
    · exact .right h

theorem not_matches_never {s : List Char} : ¬ Matches never s := nofun

theorem matches_empty {s : List Char} : Matches empty s ↔ s = [] := by
  constructor
  · rintro ⟨⟩
    rfl
  · rintro rfl
    exact .empty

theorem matches_join {p q : Pattern} {s : List Char} :
    Matches (join p q) s ↔ Matches (seq p q) s := by
  cases p with
  | never => simp [join, matches_seq, not_matches_never]
  | empty =>
    simp only [join, matches_seq, matches_empty]
    constructor
    · intro h
      exact ⟨[], s, rfl, rfl, h⟩
    · rintro ⟨a, b, rfl, rfl, h⟩
      exact h
  | _ => exact Iff.rfl

theorem matches_either {p q : Pattern} {s : List Char} :
    Matches (either p q) s ↔ Matches (alt p q) s := by
  cases p <;> cases q <;> simp [either, matches_alt, not_matches_never]

theorem isNullable_iff {p : Pattern} : p.isNullable = true ↔ Matches p [] := by
  induction p with
  | never => simp [isNullable, not_matches_never]
  | empty => simp [isNullable, matches_empty]
  | one chars => simpa [isNullable] using (nofun : ¬ Matches (one chars) [])
  | seq p q hp hq =>
    simp only [isNullable, Bool.and_eq_true, hp, hq, matches_seq]
    constructor
    · rintro ⟨ha, hb⟩
      exact ⟨[], [], rfl, ha, hb⟩
    · rintro ⟨a, b, h, ha, hb⟩
      obtain ⟨rfl, rfl⟩ := List.append_eq_nil_iff.1 h.symm
      exact ⟨ha, hb⟩
  | alt p q hp hq => simp [isNullable, matches_alt, hp, hq]
  | many p => simp [isNullable, Matches.stop]

/-- A repetition that takes a text takes a first stretch of it that is not empty. -/
theorem matches_many_cons {p : Pattern} {c : Char} {s : List Char} :
    Matches (many p) (c :: s) ↔
      ∃ a b, s = a ++ b ∧ Matches p (c :: a) ∧ Matches (many p) b := by
  constructor
  · intro h
    generalize ht : c :: s = t at h
    generalize hr : many p = r at h
    induction h with
    | @more _ a b hp hq _ ih =>
      cases hr
      cases a with
      | nil => exact ih ht rfl
      | cons d a =>
        obtain ⟨rfl, rfl⟩ := List.cons.inj ht
        exact ⟨a, b, rfl, hp, hq⟩
    | stop => cases ht
    | _ => cases hr
  · rintro ⟨a, b, rfl, hp, hq⟩
    exact .more hp hq

theorem matches_after {c : Char} {p : Pattern} {s : List Char} :
    Matches (p.after c) s ↔ Matches p (c :: s) := by
  induction p generalizing s with
  | never => simp [after, not_matches_never]
  | empty => simp [after, not_matches_never, matches_empty]
  | one chars =>
    by_cases h : chars.contains c
    · simp only [after, h, if_true, matches_empty]
      constructor
      · rintro rfl
        exact .one h
      · rintro ⟨⟩
        rfl
    · simp only [after, h, if_false, Bool.false_eq_true, not_matches_never, false_iff]
      intro h'
      cases h' with
      | one h' => exact h h'
  | seq p q hp hq =>
    have front : Matches (join (p.after c) q) s ↔
        ∃ a b, s = a ++ b ∧ Matches p (c :: a) ∧ Matches q b := by
      simp only [matches_join, matches_seq, hp]
    have whole : Matches (seq p q) (c :: s) ↔
        (Matches p [] ∧ Matches q (c :: s)) ∨
          ∃ a b, s = a ++ b ∧ Matches p (c :: a) ∧ Matches q b := by
      rw [matches_seq]
      constructor
      · rintro ⟨a, b, h, ha, hb⟩
        cases a with
        | nil => exact .inl ⟨ha, h ▸ hb⟩
        | cons d a =>
          obtain ⟨rfl, rfl⟩ := List.cons.inj h
          exact .inr ⟨a, b, rfl, ha, hb⟩
      · rintro (⟨ha, hb⟩ | ⟨a, b, rfl, ha, hb⟩)
        · exact ⟨[], c :: s, rfl, ha, hb⟩
        · exact ⟨c :: a, b, rfl, ha, hb⟩
    rw [whole, after]
    split
    · next h => simp only [matches_either, matches_alt, front, hq, isNullable_iff.1 h, true_and,
        or_comm]
    · next h => simp only [front, isNullable_iff.symm, h, Bool.false_eq_true, false_and, false_or]
  | alt p q hp hq => simp [after, matches_either, matches_alt, hp, hq]
  | many p hp => simp only [after, matches_join, matches_seq, matches_many_cons, hp]

theorem accepts_iff {p : Pattern} {text : List Char} :
    p.accepts text = true ↔ Matches p text := by
  unfold accepts
  induction text generalizing p with
  | nil => exact isNullable_iff
  | cons c text ih => rw [List.foldl_cons, ih, matches_after]

end Pattern

end ModelSchema.Grammar
