import ModelSchema.Parsing.Repair

/-!
# Reading a source

All readings of a source are followed side by side, token by token. After each token those that have
come to the same place become one, and those that are clearly worth less are given up.

## Main definitions

* `ParseM.advance` — a reading up to its next token.
* `ParseM.condense` — readings compared with one another.
* `Part.ofSource?` — the best reading of a source.
-/

namespace ModelSchema.Parsing

open Grammar

namespace ParseM

/-! ## One token -/

/-- Does what the automaton says, up to the token that is read. Whether it is read, and the first
of the last readings where parts were put together. -/
def perform (b state : Nat) (token : Part) : List Action → ParseM (Bool × Option Nat)
  | [] => return (false, none)
  | .shift _ true :: rest => perform b state token rest
  | .shift behind false :: _ => do
    push b (some (token.asExtra false)) behind
    return (true, none)
  | .shiftExtra :: _ => do
    push b (some (token.asExtra true)) state
    return (true, none)
  | .accept :: _ => do
    accept b token
    return (true, none)
  | .reduce r :: rest => do
    let first ← branchCount
    let made ← reduce b r
    let (isRead, last) ← perform b state token rest
    return (isRead, last <|> if made then some first else none)

/-- Marks a reading where a token does not fit. -/
def pause (b : Nat) (token : Part) : ParseM Unit := do
  let nodes := (← topOf b).nodes
  setBranch b fun branch =>
    { branch with status := .paused, stuckAt := some token, nodesAtFault := nodes }

/-- The word of a token as a name, if it may come as one. -/
def asName? (state : Nat) (token : Part) : ParseM (Option Part) := do
  let t ← table
  if !token.info.isWord || token.kind == .symbol t.identifier then return none
  if (← actions state t.identifier).isEmpty then return none
  match token with
  | .mk info parts => return some (.mk { info with kind := .symbol t.identifier } parts)

/-- Puts parts together on a reading until a token is read or does not fit. -/
def advanceWith (b : Nat) : Nat → Part → ParseM Unit
  | 0, token => pause b token
  | fuel + 1, token => do
    let state := (← topOf b).state
    let found ←
      match token.kind with
      | .symbol n => actions state n
      | _ => pure []
    let (isRead, last) ← perform b state token found
    if isRead then return
    match last with
    | some made =>
      replaceBranch made b
      advanceWith b fuel token
    | none =>
      if state = faultState then recover b token
      else
        match ← asName? state token with
        | some name => advanceWith b fuel name
        | none => pause b token

/-- Reads the next token on a reading. -/
def advance (b : Nat) : ParseM Unit := do
  let token ← token b (← topOf b).state
  advanceWith b (20 * (← get).stack.cells.size + 1000) token

/-- Reads on with a reading until it has got further than all others, or at least as far. -/
def advanceFar (b : Nat) : ParseM Unit := do
  for _ in [0:2 * (← get).source.size + 100] do
    if (← branchCount) ≤ b then break
    if (← branch b).status != .active then break
    advance b
    if (← branchCount) ≤ b then break
    let p ← get
    let reached := p.source.bytes 0 (← topOf b).position
    if p.reached < reached || (0 < b && reached == p.reached) then
      modify fun p => { p with reached }
      break

/-! ## All readings -/

/-- Puts a reading among others: it is given up, becomes one with one of them, takes the place of
some or comes last. -/
def settle (own : Standing) (new : Branch) (before : Array Branch) :
    List Branch → ParseM (Array Branch)
  | [] => return before.push new
  | other :: rest => do
    let all := before ++ (other :: rest).toArray
    modify fun p => { p with branches := all.push new }
    let i := before.size
    let last := all.size
    let verdict := (← standing i).verdict own
    let other ← branch i
    match verdict with
    | .takeFirst => return (before.push other) ++ rest.toArray
    | .preferFirst | .undecided =>
      if ← merge i last then return (before.push (← branch i)) ++ rest.toArray
      settle own new (before.push other) rest
    | .preferSecond =>
      if ← merge i last then return (before.push (← branch i)) ++ rest.toArray
      settle own other (before.push new) rest
    | .takeSecond => settle own new before rest

/-- Compares all readings with one another and goes on with one that is stuck if none else is
left. The least cost of those that are not at fault is the answer, if there are any. -/
def condense : ParseM (Option Nat) := do
  let all := (← get).branches.filter (·.status != .halted)
  let mut kept : Array Branch := #[]
  let mut least : Option Nat := none
  for new in all do
    modify fun p => { p with branches := kept.push new }
    let own ← standing kept.size
    let new ← branch kept.size
    if !own.isAtFault then least := some (least.elim own.cost (min own.cost))
    kept ← settle own new #[] kept.toList
  modify fun p => { p with branches := kept.extract 0 branchLimit }
  let mut goesOn := false
  let mut i := 0
  for _ in [0:← branchCount] do
    let next ← branch i
    match next.status, next.stuckAt with
    | .paused, some token =>
      if !goesOn && (← get).finished < branchLimit then
        least := some (← costOf i)
        setBranch i fun branch => { branch with status := .active, stuckAt := none }
        handleFault i token
        goesOn := true
        i := i + 1
      else removeBranch i
    | _, _ =>
      goesOn := true
      i := i + 1
  return least

/-- Follows all readings to the end of the source. -/
def run : ParseM Unit := do
  for _ in [0:2 * (← get).source.size + 100] do
    for b in [0:roundLimit] do
      if (← branchCount) ≤ b then break
      advanceFar b
    let least ← condense
    let p ← get
    if p.branches.isEmpty then break
    if let some best := p.best then
      if least.all (best.cost < ·) then break

end ParseM

/-- The best reading of a source. -/
def Part.ofSource? (t : Table) (source : SourceText) : Option Part :=
  let start : Parse := {
    source
    automaton := .initial t
    stack := .initial
    branches := #[⟨0, .active, 0, none, none⟩]
    best := none
    finished := 0
    reached := 0 }
  (ParseM.run start).2.best

end ModelSchema.Parsing
