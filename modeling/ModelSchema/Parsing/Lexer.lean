import ModelSchema.Grammar.Token
import ModelSchema.Parsing.Source

/-!
# Reading tokens

The next token of a source among those that may come. The longest one is taken, unless a token of
higher rank is complete before; of two that read the same text the one of higher rank is taken,
then a fixed text rather than a pattern, then the one that comes first in the order of tokens.

## Main definitions

* `Lexer.Scan` — the tokens that still fit what is read.
* `Lexer.Scan.step?` — one character more.
* `Lexer.read` — the next token among some.
-/

namespace ModelSchema.Parsing

open Grammar

/-- A token that fits what is read, with what is left of it. -/
structure Candidate where
  token : Nat
  rank : Int
  /-- How definite the token is. -/
  weight : Nat
  rest : Pattern

/-- What a token is read by. -/
structure TokenRule where
  candidate : Candidate
  /-- Whether no blank may stand before it. -/
  isImmediate : Bool

namespace TokenRule

/-- The rule of a token with a number; none if the context decides on it. -/
def of? (number : Nat) : Token → Option TokenRule
  | .fixed text => some ⟨⟨number, 0, 2, .literal text⟩, false⟩
  | .lexeme l =>
    let weight := (if l.isImmediate then 1 else 0) + (if l = .regexEnd then 2 else 0)
    some ⟨⟨number, l.rank, weight, l.pattern⟩, l.isImmediate⟩
  | .signal _ => none

end TokenRule

/-- What still fits: tokens that have begun, and tokens that may begin behind blanks. -/
structure Lexer.Scan where
  begun : List Candidate
  waiting : List Candidate

namespace Lexer.Scan

/-- Before the first character. -/
def start (rules : List TokenRule) : Scan where
  begun := (rules.filter (·.isImmediate)).map (·.candidate)
  waiting := (rules.filter (!·.isImmediate)).map (·.candidate)

/-- Whether one complete token is taken rather than another one of the same text. -/
def isPreferred (a b : Candidate) : Bool :=
  if a.rank != b.rank then b.rank < a.rank
  else if a.weight != b.weight then b.weight < a.weight
  else a.token < b.token

/-- The token that is complete. -/
def complete? (s : Scan) : Option Candidate :=
  (s.begun.filter (·.rest.isNullable)).foldl
    (fun best c =>
      match best with
      | none => some c
      | some b => some (if isPreferred c b then c else b))
    none

/-- What fits behind a character. -/
def advance (s : Scan) (c : Char) : Scan :=
  let through (candidates : List Candidate) : List Candidate := candidates.filterMap fun k =>
    match k.rest.after c with
    | .never => none
    | rest => some { k with rest }
  ⟨through s.begun ++ through s.waiting, if blanks.contains c then s.waiting else []⟩

/-- Whether to read on to a scan although a token is complete. -/
def goesOn (s next : Scan) (complete : Candidate) : Bool :=
  let skips := !next.waiting.isEmpty
  let rank := next.begun.foldl (fun r c => max r c.rank)
    (if skips then 0 else (next.begun.head?.map (·.rank)).getD 0)
  complete.rank < rank ||
    (rank == complete.rank && !next.begun.isEmpty &&
      (s.waiting.isEmpty ||
        (next.begun ++ next.waiting).any (·.token == complete.token)))

/-- One character more, if it belongs to the token. -/
def step? (s : Scan) (c : Char) : Option Scan :=
  let next := s.advance c
  if next.begun.isEmpty && next.waiting.isEmpty then none
  else
    match s.complete? with
    | none => some next
    | some complete => if s.goesOn next complete then some next else none

end Lexer.Scan

/-- How reading a token ended: with a token, or at a position, with the blanks before passed. -/
structure Lexer.Outcome where
  found : Option (Spanned Nat)
  start : Nat
  stop : Nat

namespace Lexer

/-- Reads the next token among some from a position on; the end of the source counts as one if
`endToken?` gives its number. -/
def read (s : SourceText) (rules : List TokenRule) (endToken? : Option Nat) (position : Nat) :
    Outcome := Id.run do
  let mut scan := Scan.start rules
  let mut start := position
  let mut found : Option (Spanned Nat) := none
  for i in [position:s.size] do
    if let some c := scan.complete? then found := some ⟨c.token, start, i⟩
    match scan.step? (s.charAt i) with
    | none => return ⟨found, start, i⟩
    | some next =>
      if next.begun.isEmpty then start := i + 1
      scan := next
  if let some c := scan.complete? then found := some ⟨c.token, start, s.size⟩
  if found.isNone && start == max position s.size then
    if let some n := endToken? then return ⟨some ⟨n, start, start⟩, start, start⟩
  return ⟨found, start, max position s.size⟩

end Lexer

end ModelSchema.Parsing
