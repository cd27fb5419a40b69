/-!
# Sets of tokens

Sets of numbers as the bits of one number.
-/

namespace ModelSchema.Parsing

/-- A set of numbers. -/
structure TokenSet where
  bits : Nat
deriving DecidableEq, Hashable

namespace TokenSet

def empty : TokenSet := ⟨0⟩

def singleton (n : Nat) : TokenSet := ⟨1 <<< n⟩

def union (s t : TokenSet) : TokenSet := ⟨s.bits ||| t.bits⟩

def contains (s : TokenSet) (n : Nat) : Bool := s.bits.testBit n

instance : Union TokenSet := ⟨union⟩
instance : EmptyCollection TokenSet := ⟨empty⟩
instance : Inhabited TokenSet := ⟨empty⟩

def insert (s : TokenSet) (n : Nat) : TokenSet := s ∪ singleton n

/-- The members below a bound, in order. -/
def below (s : TokenSet) (bound : Nat) : List Nat := (List.range bound).filter s.contains

theorem contains_union (s t : TokenSet) (n : Nat) :
    (s ∪ t).contains n = (s.contains n || t.contains n) :=
  Nat.testBit_or s.bits t.bits n

theorem contains_singleton (m n : Nat) : (singleton m).contains n = decide (m = n) := by
  simp [contains, singleton, Nat.shiftLeft_eq, Nat.testBit_two_pow]

theorem not_contains_empty (n : Nat) : empty.contains n = false := Nat.zero_testBit n

end TokenSet

end ModelSchema.Parsing
