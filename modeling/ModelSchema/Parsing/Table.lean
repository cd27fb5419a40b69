import ModelSchema.Grammar.Production
import ModelSchema.Parsing.Lexer
import ModelSchema.Parsing.TokenSet
import Std.Data.HashMap

/-!
# Tables of a grammar

What reading a source by a grammar needs to know of it: its symbols and the places within its
productions by number, the tokens that a symbol may start with, and the notions that may start
where another one starts.

## Main definitions

* `Place` — a place within a production: what is read of it and what is to come.
* `Opening` — a notion that may start where another one starts.
* `Table`, `Table.ofDialect` — all of it for a dialect.
-/

namespace ModelSchema.Parsing

open Grammar

/-! ## Symbols by number -/

/-- The symbols of a dialect by number: tokens first, then the end of the source, then notions and
repeated rules. -/
structure Numbering where
  tokens : Array Token
  tokenOf : Std.HashMap Token Nat
  repeatedOf : Std.HashMap Rule Nat

namespace Numbering

/-- The number of each value in a list, counted from a start. -/
def ranked {α : Type} [BEq α] [Hashable α] (start : Nat) (values : List α) :
    Std.HashMap α Nat :=
  (values.foldl (fun (numbers, n) v => (numbers.insert v n, n + 1)) (∅, start)).1

def ofDialect (d : Dialect) : Numbering where
  tokens := (Token.all d).toArray
  tokenOf := ranked 0 (Token.all d)
  repeatedOf := ranked 0 (Grammar.repeatedRules d)

/-- The number of notions. -/
def notionCount : Nat := Notion.functionType.ctorIdx + 1

variable (n : Numbering)

/-- The number of the end of the source. -/
def endToken : Nat := n.tokens.size

/-- The number of the first symbol that is no token. -/
def firstNotion : Nat := n.tokens.size + 1

def ofNotion (x : Notion) : Nat := n.firstNotion + x.ctorIdx

/-- The number of the first repeated rule. -/
def firstRepeated : Nat := n.firstNotion + notionCount

/-- How many symbols there are. -/
def size : Nat := n.firstRepeated + n.repeatedOf.size

def ofToken (t : Token) : Nat := n.tokenOf.getD t n.endToken

def ofSymbol : Symbol → Nat
  | .token t => n.ofToken t
  | .notion x => n.ofNotion x
  | .repeated body => n.firstRepeated + n.repeatedOf.getD body 0

end Numbering

/-! ## Places -/

/-- What a step says about the part that it reads. -/
structure Mark where
  label : Option Label
  role : Option SyntaxField
deriving DecidableEq, Hashable

/-- A step with its symbol by number. -/
structure NumberedStep where
  symbol : Nat
  rank : Option Rank
  side : Option Side
  mark : Mark
deriving DecidableEq, Hashable

/-- A place within a production. Two productions share a place if they are written the same way
from it on, and what is read of them has the same marks: `past` are those, nearest first. -/
structure PlaceShape where
  of : Nat
  bonus : Int
  length : Nat
  rank : Option Rank
  side : Option Side
  past : List Mark
  rest : List NumberedStep
deriving DecidableEq, Hashable

/-- A place with what its shape and number decide. -/
structure Place where
  /-- The symbol that is read. -/
  of : Nat
  /-- How many of its parts are read. -/
  count : Nat
  length : Nat
  bonus : Int
  rank : Option Rank
  side : Option Side
  past : List Mark
  /-- The symbol to come, and the place behind it. -/
  next : Option (Nat × Nat)
deriving Inhabited

/-- The places found so far. -/
structure Places where
  numbers : Std.HashMap PlaceShape Nat
  places : Array Place

namespace Places

/-- The number of a place, which is added if it is new. -/
def add (ps : Places) (shape : PlaceShape) (next : Option (Nat × Nat)) : Places × Nat :=
  match ps.numbers[shape]? with
  | some n => (ps, n)
  | none =>
    let n := ps.places.size
    let place := ⟨shape.of, shape.past.length, shape.length, shape.bonus, shape.rank, shape.side,
      shape.past, next⟩
    (⟨ps.numbers.insert shape n, ps.places.push place⟩, n)

/-- Adds the places of a production from one on, last ones first, and gives the number of the
first one. -/
def addFrom (of : Nat) (bonus : Int) (length : Nat) (rank : Option Rank) (side : Option Side)
    (past : List Mark) (ps : Places) : List NumberedStep → Places × Nat
  | [] => ps.add ⟨of, bonus, length, rank, side, past, []⟩ none
  | s :: rest =>
    let (ps, behind) := addFrom of bonus length s.rank s.side (s.mark :: past) ps rest
    ps.add ⟨of, bonus, length, rank, side, past, s :: rest⟩ (some (s.symbol, behind))

end Places

/-- A production by numbers: its symbol and the place before its first part. -/
structure Entry where
  of : Nat
  place : Nat

/-! ## Openings -/

/-- A symbol that may start where another one starts: the tokens behind it that the symbols
between bring with them, and whether what follows the other one may follow it too. -/
structure Opening where
  symbol : Nat
  ahead : TokenSet
  isLast : Bool
deriving Inhabited

/-- All that reading needs to know of a grammar. -/
structure Table where
  numbering : Numbering
  places : Array Place
  /-- The tokens that a symbol may start with, by its number. -/
  first : Array TokenSet
  /-- The symbols that may start where a symbol starts, by its number. -/
  openings : Array (Array Opening)
  /-- The places behind the first part of a symbol, by its number and that of the part. -/
  begun : Array (Std.HashMap Nat (Array Nat))
  /-- The places of symbols that may have no parts. -/
  blank : Std.HashMap Nat Nat
  /-- The place before the whole source. -/
  start : Nat
  /-- The tokens that may stand anywhere. -/
  extras : TokenSet
  /-- Tokens in the order in which a missing one is guessed. -/
  guesses : List Nat
  identifier : Nat
  /-- How each token is read, unless the context decides on it. -/
  rules : Array (Option TokenRule)
  /-- The words that are names elsewhere. -/
  words : Std.HashMap String Nat
  /-- The notions that have nodes of their own. -/
  shown : TokenSet

namespace Table

/-- A set of tokens for each symbol, grown until each holds those that it takes over. -/
def growSets (sets : Array TokenSet) (rules : Array (Nat × Nat)) : Array TokenSet := Id.run do
  let mut sets := sets
  for _ in [0:sets.size] do
    let mut grew := false
    for (target, source) in rules do
      let grown := sets[target]! ∪ sets[source]!
      if grown != sets[target]! then
        sets := sets.set! target grown
        grew := true
    if !grew then break
  return sets

/-- The symbols that start a symbol: the first one of each of its productions, with the tokens that
may come behind it, if there is a second part. -/
def leftParts (first : Array TokenSet) (places : Array Place) (firstNotion : Nat)
    (entries : Array Entry) (symbols : Nat) : Array (Array Opening) := Id.run do
  let mut parts : Array (Array Opening) := Array.replicate symbols #[]
  for e in entries do
    let place := places[e.place]!
    if let some (x, behind) := place.next then
      if firstNotion ≤ x then
        let found : Opening :=
          match places[behind]!.next with
          | some (y, _) => ⟨x, first[y]!, false⟩
          | none => ⟨x, ∅, true⟩
        let merged := parts[e.of]!
        let known := merged.findIdx? (·.symbol == x)
        let merged :=
          match known with
          | some i => merged.modify i fun o => ⟨x, o.ahead ∪ found.ahead, o.isLast || found.isLast⟩
          | none => merged.push found
        parts := parts.set! e.of merged
  return parts

/-- The openings of one symbol: itself, and the left parts of its openings. -/
def openingsOf (parts : Array (Array Opening)) (x : Nat) : Array Opening := Id.run do
  let mut found : Array Opening := #[⟨x, ∅, true⟩]
  let mut index : Std.HashMap Nat Nat := {(x, 0)}
  for _ in [0:parts.size] do
    let mut grew := false
    for i in [0:parts.size] do
      if h : i < found.size then
        let outer := found[i]
        for part in parts[outer.symbol]! do
          let ahead := part.ahead ∪ (if part.isLast then outer.ahead else ∅)
          let isLast := part.isLast && outer.isLast
          match index[part.symbol]? with
          | none =>
            index := index.insert part.symbol found.size
            found := found.push ⟨part.symbol, ahead, isLast⟩
            grew := true
          | some j =>
            let known := found[j]!
            let grown : Opening := ⟨part.symbol, known.ahead ∪ ahead, known.isLast || isLast⟩
            if grown.ahead != known.ahead || grown.isLast != known.isLast then
              found := found.set! j grown
              grew := true
      else break
    if !grew then break
  return found

/-- The table of a dialect. -/
def ofDialect (d : Dialect) : Table := Id.run do
  let numbering := Numbering.ofDialect d
  let mut ps : Places := ⟨∅, #[]⟩
  let mut entries : Array Entry := #[]
  for p in Grammar.productions d do
    let steps := p.steps.map fun s =>
      (⟨numbering.ofSymbol s.symbol, s.rank, s.side, ⟨s.label, s.role⟩⟩ : NumberedStep)
    let of := numbering.ofSymbol p.of
    let (grown, place) := Places.addFrom of p.bonus steps.length none none [] ps steps
    ps := grown
    entries := entries.push ⟨of, place⟩
  -- The whole source, as a symbol that no production uses.
  let whole : NumberedStep := ⟨numbering.ofNotion .program, none, none, ⟨none, none⟩⟩
  let (grown, start) := Places.addFrom numbering.size 0 1 none none [] ps [whole]
  let places := grown.places
  let symbols := numbering.size
  let singles := (Array.range symbols).map fun n =>
    if n < numbering.firstNotion then TokenSet.singleton n else ∅
  let starts := entries.filterMap fun e => places[e.place]!.next.map fun (x, _) => (e.of, x)
  let first := growSets singles starts
  let parts := leftParts first places numbering.firstNotion entries symbols
  let mut begun : Array (Std.HashMap Nat (Array Nat)) := Array.replicate symbols ∅
  let mut blank : Std.HashMap Nat Nat := ∅
  for e in entries do
    match places[e.place]!.next with
    | some (x, behind) =>
      begun := begun.modify e.of fun known =>
        let behinds := known.getD x #[]
        if behinds.contains behind then known else known.insert x (behinds.push behind)
    | none => blank := blank.insert e.of e.place
  let identifier := numbering.ofToken (.lexeme .identifier)
  let mut words : Std.HashMap String Nat := ∅
  for t in numbering.tokens do
    if let .fixed text := t then
      if t.isWord then words := words.insert text (numbering.ofToken t)
  return {
    numbering, places, first, begun, blank, start, identifier, words
    rules := numbering.tokens.mapIdx TokenRule.of?
    shown := ((Grammar.rules d).filter (·.1.isShown)).foldl
      (fun set r => set.insert (numbering.ofNotion r.1)) ∅
    openings := (Array.range symbols).map fun n =>
      if n < numbering.firstNotion then #[] else openingsOf parts n
    extras := (TokenSet.singleton (numbering.ofToken (.lexeme .comment))).insert
      (numbering.ofToken (.signal .arrowComment))
    guesses := identifier :: (List.range numbering.endToken).filter (· != identifier) }

end Table

end ModelSchema.Parsing
