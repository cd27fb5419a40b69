import ModelSchema.Parsing.Context
import ModelSchema.Parsing.Table

/-!
# The automaton of a grammar

The states in which a reader of the source can be: the places of the grammar that fit what is read
so far, each with the tokens that may follow the whole of its symbol. States are made when a source
first leads to them.

## Main definitions

* `State` — a state; `faultState` and `startState` are there from the start.
* `Action` — what to do with a token in a state.
* `Automaton` — the states made so far.
* `Automaton.move` — the state behind a symbol.
* `Automaton.actions` — what to do with a token, where ranks and sides decide between readings.
-/

namespace ModelSchema.Parsing

open Grammar

/-- A place with the tokens that may follow its symbol. -/
structure Situation where
  place : Nat
  ahead : TokenSet
deriving DecidableEq, Hashable, Inhabited

/-- A state of the automaton. -/
structure State where
  /-- What is read in part. -/
  kernel : Array Situation
  /-- What is read in full. -/
  complete : Array Situation
  /-- The tokens that may come. -/
  expected : TokenSet
  /-- How they are read, words as names first. -/
  rules : List TokenRule
  /-- Those among them that the context decides on. -/
  context : Expectation
deriving Inhabited

/-- The state in which the source makes no sense. -/
def faultState : Nat := 0

/-- The state before the source. -/
def startState : Nat := 1

/-- A symbol that is read in full. -/
structure Reduction where
  of : Nat
  /-- How many parts it has. -/
  count : Nat
  bonus : Int
  /-- What the steps say about the parts, last one first. -/
  marks : List Mark
deriving DecidableEq

/-- What to do with a token. -/
inductive Action where
  /-- Read it. A stretch of a repeated rule that would only grow is not read that way. -/
  | shift (state : Nat) (grows : Bool)
  /-- Read it as something that may stand anywhere. -/
  | shiftExtra
  /-- Put the parts of a symbol together first. -/
  | reduce (r : Reduction)
  /-- The source is read. -/
  | accept
deriving DecidableEq

/-- The states made so far, with what was found out about them. -/
structure Automaton where
  table : Table
  states : Array State
  numbers : Std.HashMap (Array Situation) Nat
  moves : Std.HashMap Nat (Option Nat)
  decisions : Std.HashMap Nat (List Action)

namespace Table

variable (t : Table)

def placeAt (n : Nat) : Place := t.places[n]!

/-- The tokens that may come at a situation. -/
def aheadOf (s : Situation) : TokenSet :=
  match (t.placeAt s.place).next with
  | some (x, _) => t.first[x]!
  | none => s.ahead

/-- The symbols that may start at a situation, each with the tokens that may follow it. -/
def openingsAt (s : Situation) : List (Nat × TokenSet) :=
  match (t.placeAt s.place).next with
  | none => []
  | some (x, behind) =>
    let follow := t.aheadOf ⟨behind, s.ahead⟩
    t.openings[x]!.toList.map fun o => (o.symbol, if o.isLast then o.ahead ∪ follow else o.ahead)

/-- Whether a token is a word that is read as a name first. -/
def isWord (token : Nat) : Bool := (t.numbering.tokens[token]?).any (·.isWord)

/-- How some tokens are read. -/
def rulesOf (expected : TokenSet) : List TokenRule :=
  let tokens := expected.below t.numbering.endToken
  let names := if tokens.any t.isWord then expected.insert t.identifier else expected
  ((names.below t.numbering.endToken).filter fun n => !t.isWord n).filterMap fun n =>
    (t.rules[n]?).join

/-- The tokens among some that the context decides on. -/
def contextOf (expected : TokenSet) : Expectation :=
  let has (token : Token) : Bool := expected.contains (t.numbering.ofToken token)
  { lineEnd := has (.signal .lineEnd)
    signatureEnd := has (.signal .signatureEnd)
    templateText := has (.signal .templateText)
    questionMark := has (.signal .questionMark)
    arrowComment := has (.signal .arrowComment)
    disjunction := has (.fixed "||")
    escape := has (.lexeme .escape)
    regexBody := has (.lexeme .regexBody) }

/-- The state in which tokens are looked for that show where the source makes sense again. -/
def fault : State :=
  let landmarks := (List.range t.numbering.endToken).filter fun n =>
    (t.numbering.tokens[n]?).any (·.isLandmark)
  let expected := (landmarks.foldl TokenSet.insert ∅).insert t.numbering.endToken
  ⟨#[], #[], expected, t.rulesOf expected, default⟩

/-- A state with a kernel. -/
def stateOf (kernel : Array Situation) : State :=
  let blanks := kernel.toList.flatMap fun s =>
    if t.blank.isEmpty then []
    else (t.openingsAt s).filterMap fun (x, ahead) => t.blank[x]?.map (⟨·, ahead⟩)
  let complete := blanks ++ kernel.toList.filter fun s => (t.placeAt s.place).next.isNone
  let expected := (kernel.toList ++ blanks).foldl (fun set s => set ∪ t.aheadOf s) t.extras
  ⟨kernel, complete.toArray, expected, t.rulesOf expected, t.contextOf expected⟩

/-- The situations behind a symbol. -/
def behind (kernel : Array Situation) (x : Nat) : Array Situation := Id.run do
  let mut found : Std.HashMap Nat TokenSet := ∅
  for s in kernel do
    if let some (y, place) := (t.placeAt s.place).next then
      if x = y then found := found.insert place (found.getD place ∅ ∪ s.ahead)
      for (z, ahead) in t.openingsAt s do
        for place in t.begun[z]!.getD x #[] do
          found := found.insert place (found.getD place ∅ ∪ ahead)
  return (found.toArray.map fun (place, ahead) => ⟨place, ahead⟩).qsort fun a b => a.place < b.place

/-! ## Which reading to prefer -/

/-- Which of two sides binds tighter, each given by a rank and the symbols that it is about. -/
def compareRanks (rank : Option Rank) (ofs : List Nat) (rank' : Option Rank) (ofs' : List Nat) :
    Ordering :=
  match rank, rank' with
  | some (.level n), some (.level n') => if n = 0 ∧ n' = 0 then byOrders else compare n n'
  | some (.level n), none => if n = 0 then byOrders else compare n 0
  | none, some (.level n') => if n' = 0 then byOrders else compare 0 n'
  | _, _ => byOrders
where
  isIn (rank : Option Rank) (ofs : List Nat) : Rank.Entry → Bool
    | .rank r => rank == some r
    | .notion n => ofs.contains (t.numbering.ofNotion n)
  /-- The side that comes first in an order that has both. -/
  inOrder (seen seen' : Bool) : List Rank.Entry → Ordering
    | [] => .eq
    | e :: rest =>
      if isIn rank ofs e then
        if seen' then .lt else inOrder true seen' rest
      else if isIn rank' ofs' e then
        if seen then .gt else inOrder seen true rest
      else inOrder seen seen' rest
  byOrders : Ordering := (Rank.orders.map (inOrder false false)).foldl Ordering.then .eq

/-- Whether a symbol is a repeated rule. -/
def isRepeated (x : Nat) : Bool := t.numbering.firstRepeated ≤ x && x < t.numbering.size

/-- Whether a symbol is put together whatever comes next. The name of an imported type is. -/
def isEager (p : Place) : Bool :=
  p.of == t.numbering.ofNotion .importedMember ||
    (p.of == t.numbering.ofNotion .type && p.past.any fun m => m.label.isSome)

end Table

/-- Symbols that may be put together before a token, with what is known of their ranks. -/
structure Closings where
  places : List Place
  rank : Option Rank
  ofs : List Nat
  sides : List (Option Side)

namespace Closings

def none : Closings := ⟨[], .none, [], []⟩

/-- One more symbol; of two that bind differently only the tighter one stays. -/
def add (t : Table) (c : Closings) (p : Place) : Closings :=
  let grown (places : List Place) (ofs : List Nat) (sides : List (Option Side)) : Closings :=
    ⟨places ++ [p], p.rank, if ofs.contains p.of then ofs else ofs ++ [p.of], sides ++ [p.side]⟩
  if c.places.isEmpty then grown [] [] []
  else
    match t.compareRanks p.rank [p.of] c.rank c.ofs with
    | .gt => grown [] [] []
    | .eq => grown c.places c.ofs c.sides
    | .lt => c

end Closings

namespace Automaton

/-- The automaton before it has read anything. -/
def initial (t : Table) : Automaton where
  table := t
  states := #[t.fault, t.stateOf #[⟨t.start, .singleton t.numbering.endToken⟩]]
  numbers := ∅
  moves := ∅
  decisions := ∅

variable (a : Automaton)

def stateAt (n : Nat) : State := a.states[n]!

/-- The number of a state with a kernel, which is made if it is new. -/
def number (kernel : Array Situation) : Nat × Automaton :=
  match a.numbers[kernel]? with
  | some n => (n, a)
  | none =>
    let n := a.states.size
    (n, { a with
      states := a.states.push (a.table.stateOf kernel)
      numbers := a.numbers.insert kernel n })

/-- One number for a state and a symbol. -/
def key (state symbol : Nat) : Nat := state * (a.table.numbering.size + 1) + symbol

/-- The state behind a symbol, if it may come. -/
def move (state symbol : Nat) : Option Nat × Automaton :=
  let key := a.key state symbol
  match a.moves[key]? with
  | some found => (found, a)
  | none =>
    let kernel := a.table.behind (a.stateAt state).kernel symbol
    if kernel.isEmpty then
      (none, { a with moves := a.moves.insert key none })
    else
      let (n, a) := a.number kernel
      (some n, { a with moves := a.moves.insert key (some n) })

/-- What a place that is read in full asks for. -/
def actionAt (p : Place) : Action :=
  if p.of == a.table.numbering.size then .accept
  else .reduce ⟨p.of, p.count, p.bonus, p.past⟩

/-- Which comes first of two places that are read in full. -/
def isBefore (p q : Place) : Bool :=
  (compare p.count q.count).then ((compare p.of q.of).then
    ((compare p.bonus q.bonus).then (compare p.length q.length))) == .lt

/-- The symbols that may be put together in a state before a token. -/
def closings (s : State) (token : Nat) : Closings :=
  let complete := s.complete.toList.filter (·.ahead.contains token)
  let places := (complete.map fun c => a.table.placeAt c.place).mergeSort fun p q => !isBefore q p
  places.foldl (Closings.add a.table) Closings.none

/-- What to do with a token that may be read and behind which symbols may be put together as well:
both, or what binds tighter, or what the sides say. -/
def settle (s : State) (token target : Nat) (c : Closings) : List Action :=
  let t := a.table
  let open_ := s.kernel.toList.filterMap fun k =>
    let p := t.placeAt k.place
    match p.next with
    | some (x, _) =>
      if t.first[x]!.contains token && p.of != t.numbering.size then some p else none
    | none => none
  let closed := (s.complete.toList.filter (·.ahead.contains token)).map fun k =>
    t.placeAt k.place
  let reductions := c.places.map a.actionAt
  let involved := open_ ++ closed
  match involved with
  | [] => reductions ++ [.shift target false]
  | p :: rest =>
    if t.isRepeated p.of && rest.all (·.of == p.of) then reductions ++ [.shift target true]
    else
      let orders := open_.map fun p => t.compareRanks p.rank [p.of] c.rank c.ofs
      let tighter := orders.contains .gt
      let looser := orders.contains .lt
      if tighter && !looser then [.shift target false]
      else if looser && !tighter then reductions
      else if !tighter && !looser && c.sides.all (· == some .left) then reductions
      else if !tighter && !looser && c.sides.all (· == some .right) then [.shift target false]
      else reductions ++ [.shift target false]

/-- What to do with a token that no place expects: put a symbol together that does not depend on
what comes next, if that is all there is to do. -/
def eagerActions (s : State) : List Action :=
  match s.complete.toList.map fun c => a.table.placeAt c.place with
  | [] => []
  | p :: rest =>
    if a.table.isEager p && rest.all fun q => q.of == p.of && q.count == p.count then
      [a.actionAt p]
    else []

/-- What to do with a token in a state. -/
def actions (state token : Nat) : List Action × Automaton :=
  let key := a.key state token
  match a.decisions[key]? with
  | some found => (found, a)
  | none =>
    let s := a.stateAt state
    let c := a.closings s token
    let isExtra := a.table.extras.contains token
    let (target, a) := if state = faultState then (none, a) else a.move state token
    let found :=
      match target with
      | some n =>
        if c.places.isEmpty then [.shift n false] else a.settle s token n c
      | none =>
        if !c.places.isEmpty then c.places.map a.actionAt
        else if isExtra then [.shiftExtra]
        else if state = faultState then []
        else a.eagerActions s
    (found, { a with decisions := a.decisions.insert key found })

/-- The state behind a token, if it may be read; behind something that may stand anywhere the state
is the same. -/
def next (state token : Nat) : Option Nat × Automaton :=
  let (found, a) := a.actions state token
  match found.getLast? with
  | some (.shift n _) => (some n, a)
  | some .shiftExtra => (some state, a)
  | _ => (none, a)

end Automaton

end ModelSchema.Parsing
