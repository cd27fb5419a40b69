/-!
# Glob patterns

A pattern matches a whole text. A question mark stands for one character, a star for any text,
brackets for one character of a set or outside of it, and two stars between slashes for any number
of whole directories.

## Main definitions

* `Glob.Token`, `Glob.Fault` — the parts of a pattern, and what can be wrong with one.
* `Glob.compile` — the tokens of a pattern.
* `Glob.matchesTokens` — whether a text matches.
-/

namespace ModelSchema.Glob

/-- What a set of characters is made of; the bounds of a range belong to it. -/
inductive Specifier where
  | single (c : Char)
  | range (low high : Char)
deriving DecidableEq, Repr

/-- A part of a pattern. -/
inductive Token where
  | literal (c : Char)
  | anyChar
  | anySequence
  /-- Any number of whole directories. -/
  | anyDirectories
  | within (set : List Specifier)
  | except (set : List Specifier)
deriving DecidableEq, Repr

/-- What is wrong with a pattern. -/
inductive FaultKind where
  | wildcards
  | recursiveWildcards
  | invalidRange
deriving DecidableEq, Repr

/-- The wording of a fault. -/
def FaultKind.message : FaultKind → String
  | .wildcards => "wildcards are either regular \x60*\x60 or recursive \x60**\x60"
  | .recursiveWildcards => "recursive wildcards must form a single path component"
  | .invalidRange => "invalid range pattern"

/-- A fault and the number of characters before it. -/
structure Fault where
  position : Nat
  kind : FaultKind
deriving DecidableEq, Repr

/-- The wording of a fault with its place. -/
def Fault.message (f : Fault) : String :=
  "Pattern syntax error near position " ++ toString f.position ++ ": " ++ f.kind.message

/-- Whether a text is to be read as a pattern. -/
def isPattern (s : String) : Bool := s.toList.any fun c => c == '*' || c == '?' || c == '['

/-- The members of a set, where a hyphen between two characters makes a range. -/
def specifiers : List Char → List Specifier
  | a :: '-' :: b :: cs => .range a b :: specifiers cs
  | a :: cs => .single a :: specifiers cs
  | [] => []

/-- The members of a set and the pattern behind its closing bracket, which is not the first
character. -/
def setBody? : List Char → Option (List Char × List Char)
  | [] => none
  | c :: cs =>
    match cs.dropWhile (· != ']') with
    | [] => none
    | _ :: rest => some (c :: cs.takeWhile (· != ']'), rest)

/-- The token of a set and the pattern behind it, where `cs` stands behind the opening bracket. -/
def set? (cs : List Char) : Option (Token × List Char) :=
  match cs with
  | '!' :: cs => (setBody? cs).map fun (body, rest) => (.except (specifiers body), rest)
  | cs => (setBody? cs).map fun (body, rest) => (.within (specifiers body), rest)

theorem length_setBody?_lt {cs body rest : List Char} (h : setBody? cs = some (body, rest)) :
    rest.length < cs.length := by
  cases cs with
  | nil => simp [setBody?] at h
  | cons c cs =>
    simp only [setBody?] at h
    split at h
    · simp at h
    · rename_i d rest' heq
      have hle := (List.dropWhile_sublist (· != ']') (l := cs)).length_le
      rw [heq] at hle
      simp only [Option.some.injEq, Prod.mk.injEq] at h
      rw [← h.2]
      simp only [List.length_cons] at hle ⊢
      omega

theorem length_set?_lt {cs rest : List Char} {t : Token} (h : set? cs = some (t, rest)) :
    rest.length < cs.length := by
  unfold set? at h
  split at h
  · rename_i tail
    obtain ⟨⟨body, rest'⟩, hb, he⟩ := Option.map_eq_some_iff.1 h
    have := length_setBody?_lt hb
    simp only [Prod.mk.injEq] at he
    rw [← he.2]
    simp only [List.length_cons]
    omega
  · obtain ⟨⟨body, rest'⟩, hb, he⟩ := Option.map_eq_some_iff.1 h
    have := length_setBody?_lt hb
    simp only [Prod.mk.injEq] at he
    rw [← he.2]
    omega

/-- The tokens of the pattern `cs`, before which stand `position` characters, the last of them
`previous`. -/
def compileFrom (position : Nat) (previous : Option Char) (cs : List Char) :
    Except Fault (List Token) :=
  match cs with
  | [] => .ok []
  | '?' :: cs => do
    let rest ← compileFrom (position + 1) (some '?') cs
    return .anyChar :: rest
  | '*' :: '*' :: '*' :: _ => .error ⟨position + 2, .wildcards⟩
  | '*' :: '*' :: cs =>
    if previous.isNone || previous == some '/' then
      match cs with
      | [] => .ok [.anyDirectories]
      | '/' :: cs => do
        let rest ← compileFrom (position + 3) (some '/') cs
        return .anyDirectories :: rest
      | _ => .error ⟨position + 2, .recursiveWildcards⟩
    else .error ⟨position - 1, .recursiveWildcards⟩
  | '*' :: cs => do
    let rest ← compileFrom (position + 1) (some '*') cs
    return .anySequence :: rest
  | '[' :: cs =>
    match h : set? cs with
    | none => .error ⟨position, .invalidRange⟩
    | some (token, behind) => do
      let rest ← compileFrom (position + 1 + (cs.length - behind.length)) (some ']') behind
      return token :: rest
  | c :: cs => do
    let rest ← compileFrom (position + 1) (some c) cs
    return .literal c :: rest
termination_by cs.length
decreasing_by
  all_goals simp only [List.length_cons]
  all_goals first
    | omega
    | exact Nat.lt_succ_of_lt (length_set?_lt h)

/-- The tokens of a pattern. -/
def compile (pattern : String) : Except Fault (List Token) :=
  compileFrom 0 none pattern.toList

def Specifier.has (s : Specifier) (c : Char) : Bool :=
  match s with
  | .single d => c == d
  | .range low high => low ≤ c && c ≤ high

/-- Whether a token that stands for one character stands for `c`. -/
def Token.accepts (t : Token) (c : Char) : Bool :=
  match t with
  | .literal d => c == d
  | .anyChar => true
  | .within set => set.any (·.has c)
  | .except set => !set.any (·.has c)
  | .anySequence | .anyDirectories => false

/-! ## Matching

A text has one end for each of its positions, the longest first and the empty one last. Matching
works on the list that tells of each end whether the tokens read so far, from the last one on,
match it; so it takes one pass over the text for each token. -/

/-- Of each end, whether it starts with a character that the token stands for, and the end behind
that is one of `found`. -/
def characterEnds (t : Token) : List Char → List Bool → List Bool
  | c :: cs, _ :: found =>
    (t.accepts c && found.head?.getD false) :: characterEnds t cs found
  | _, _ => [false]

/-- Of each end, whether it or a shorter one is one of `found`. -/
def sequenceEnds : List Bool → List Bool
  | [] => []
  | here :: found =>
    let shorter := sequenceEnds found
    (here || shorter.head?.getD false) :: shorter

/-- Of each end, whether it holds a slash with one of `found` right behind it. -/
def slashEnds : List Char → List Bool → List Bool
  | c :: cs, _ :: found =>
    let later := slashEnds cs found
    ((c == '/' && found.head?.getD false) || later.head?.getD false) :: later
  | _, _ => [false]

/-- Of each end of a text, whether it matches the tokens. -/
def matchingEnds : List Token → List Char → List Bool
  | [], cs => cs.map (fun _ => false) ++ [true]
  | t :: ts, cs =>
    let found := matchingEnds ts cs
    match t with
    | .anySequence => sequenceEnds found
    | .anyDirectories =>
      let emptyMatches := found.getLast?.getD false
      List.zipWith (fun here later => here || later || emptyMatches) found (slashEnds cs found)
    | _ => characterEnds t cs found

/-- Whether a whole text matches the tokens. -/
def matchesTokens (ts : List Token) (cs : List Char) : Bool :=
  (matchingEnds ts cs).head?.getD false

end ModelSchema.Glob
