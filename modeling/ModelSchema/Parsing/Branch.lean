import ModelSchema.Parsing.Stack

/-!
# Branches

The readings of a source that are followed side by side, each at the top of its branch of the stack,
and which of two is worth more.

## Main definitions

* `Branch` — a reading.
* `Standing`, `Standing.verdict` — what a reading is judged by, and the judgement.
* `Parse` — all that reading a source knows.
-/

namespace ModelSchema.Parsing

open Grammar

/-- Whether a reading goes on. -/
inductive Branch.Status where
  | active
  /-- A token does not fit. -/
  | paused
  | halted
deriving DecidableEq, Inhabited

/-- A place below in the stack where the source may fit again. -/
structure ReturnPoint where
  position : Nat
  depth : Nat
  state : Nat

/-- A reading: the top of its branch, and what is known since it went wrong. -/
structure Branch where
  top : Nat
  status : Branch.Status
  /-- How many nodes it had when it last went wrong. -/
  nodesAtFault : Nat
  /-- The token that does not fit. -/
  stuckAt : Option Part
  returnPoints : Option (List ReturnPoint)
deriving Inhabited

/-- What a reading is judged by. -/
structure Standing where
  cost : Nat
  nodesSinceFault : Nat
  bonus : Int
  isAtFault : Bool

/-- A judgement on two readings. -/
inductive Verdict where
  | takeFirst
  | preferFirst
  | undecided
  | preferSecond
  | takeSecond
deriving DecidableEq

/-- Which of two readings is worth more, and whether the other one is given up. -/
def Standing.verdict (a b : Standing) : Verdict :=
  if !a.isAtFault && b.isAtFault then
    if a.cost < b.cost then .takeFirst else .preferFirst
  else if a.isAtFault && !b.isAtFault then
    if b.cost < a.cost then .takeSecond else .preferSecond
  else if a.cost < b.cost then
    if costs.difference < (b.cost - a.cost) * (1 + a.nodesSinceFault) then .takeFirst
    else .preferFirst
  else if b.cost < a.cost then
    if costs.difference < (a.cost - b.cost) * (1 + b.nodesSinceFault) then .takeSecond
    else .preferSecond
  else if b.bonus < a.bonus then .preferFirst
  else if a.bonus < b.bonus then .preferSecond
  else .undecided

/-- The most readings that are followed at once, and how many more there may be for a moment. -/
def branchLimit : Nat := 6
def branchReserve : Nat := 4

/-- All that reading a source knows. -/
structure Parse where
  source : SourceText
  automaton : Automaton
  stack : Stack
  branches : Array Branch
  /-- The best reading of the whole source so far, and how many there were. -/
  best : Option Part
  finished : Nat
  /-- How far any reading has got, in bytes. -/
  reached : Nat

/-- Steps of reading a source. -/
abbrev ParseM := StateM Parse

namespace ParseM

/-! ## The automaton and the stack -/

/-- Asks the automaton. -/
def ask {α : Type} (f : Automaton → α × Automaton) : ParseM α :=
  modifyGet fun p =>
    let a := p.automaton
    let p := { p with automaton := ⟨a.table, #[], ∅, ∅, ∅⟩ }
    let (x, a) := f a
    (x, { p with automaton := a })

def actions (state token : Nat) : ParseM (List Action) := ask (·.actions state token)

def next (state token : Nat) : ParseM (Option Nat) := ask (·.next state token)

def move (state symbol : Nat) : ParseM (Option Nat) := ask (·.move state symbol)

def branch (b : Nat) : ParseM Branch := return (← get).branches[b]!

def cellAt (n : Nat) : ParseM Cell := return (← get).stack.cellAt n

def topOf (b : Nat) : ParseM Cell := do cellAt (← branch b).top

def branchCount : ParseM Nat := return (← get).branches.size

def setBranch (b : Nat) (f : Branch → Branch) : ParseM Unit :=
  modify fun p => { p with branches := p.branches.modify b f }

def setStatus (b : Nat) (status : Branch.Status) : ParseM Unit :=
  setBranch b fun branch => { branch with status }

def removeBranch (b : Nat) : ParseM Unit :=
  modify fun p => { p with branches := p.branches.eraseIdxIfInBounds b }

/-- A new reading at a cell, last in order. -/
def addBranch (top nodesAtFault : Nat) (status : Branch.Status) : ParseM Nat :=
  modifyGet fun p =>
    (p.branches.size,
      { p with branches := p.branches.push ⟨top, status, nodesAtFault, none, none⟩ })

/-- Puts one reading in the place of another one. -/
def replaceBranch (source target : Nat) : ParseM Unit := do
  if source = target then return
  let moved ← branch source
  setBranch target fun old =>
    { moved with returnPoints := moved.returnPoints <|> old.returnPoints }
  removeBranch source

/-- Puts a part on a reading. Without a part it has gone wrong. -/
def push (b : Nat) (part : Option Part) (state : Nat) : ParseM Unit := do
  let below := (← branch b).top
  let top ← modifyGet fun p =>
    let stack := p.stack
    let p := { p with stack := ⟨#[]⟩ }
    let (n, stack) := stack.push below part state
    (n, { p with stack })
  setBranch b fun branch => { branch with top }
  if part.isNone then
    let nodes := (← cellAt top).nodes
    setBranch b fun branch => { branch with nodesAtFault := nodes }

/-- Whether two readings are at the same place and may become one. -/
def canMerge (b c : Nat) : ParseM Bool := do
  let first ← branch b
  let second ← branch c
  return first.status == .active && second.status == .active &&
    (← get).stack.canJoin first.top second.top

/-- Makes one reading of two that are at the same place. -/
def merge (b c : Nat) : ParseM Bool := do
  if !(← canMerge b c) then return false
  let first := (← branch b).top
  let second := (← branch c).top
  modify fun p =>
    let stack := p.stack
    let p := { p with stack := ⟨#[]⟩ }
    { p with stack := stack.join first second }
  let cell ← cellAt first
  if cell.state = faultState then
    setBranch b fun branch => { branch with nodesAtFault := cell.nodes }
  removeBranch c
  return true

/-- New readings at the ends of some ways down from a reading, in the order of the ways, each with
the parts on its ways. -/
def branchesAt (b : Nat) (ways : List (Nat × List (List Part))) :
    ParseM (List (Nat × List (List Part))) := do
  let nodesAtFault := (← branch b).nodesAtFault
  ways.mapM fun (cell, parts) => return (← addBranch cell nodesAtFault .active, parts)

/-- New readings some steps below a reading. -/
def branchesBelow (b depth : Nat) : ParseM (List (Nat × List (List Part))) := do
  let ways := (← get).stack.waysOf depth (← branch b).top
  branchesAt b ways

/-! ## Standing -/

/-- What a reading costs so far. -/
def costOf (b : Nat) : ParseM Nat := do
  let branch ← branch b
  let cell ← cellAt branch.top
  let wentWrong := cell.state == faultState && (cell.links.head?).any (·.part.isNone)
  return cell.cost + (if branch.status == .paused || wentWrong then costs.fault else 0)

/-- How many nodes a reading has read since it went wrong. -/
def nodesSinceFault (b : Nat) : ParseM Nat := do
  let nodes := (← topOf b).nodes
  if nodes < (← branch b).nodesAtFault then
    setBranch b fun branch => { branch with nodesAtFault := nodes }
  return nodes - (← branch b).nodesAtFault

def standing (b : Nat) : ParseM Standing := do
  let cost ← costOf b
  let nodes ← nodesSinceFault b
  let cell ← topOf b
  let isPaused := (← branch b).status == .paused
  return {
    cost := cost + (if isPaused then costs.skippedPart else 0)
    nodesSinceFault := nodes
    bonus := cell.bonus
    isAtFault := isPaused || cell.state == faultState }

/-- Whether another reading is better than a reading would be at a cost. -/
def isHopeless (b : Nat) (isAtFault : Bool) (cost : Nat) : ParseM Bool := do
  if ((← get).best).any (·.cost ≤ cost) then return true
  let cell ← topOf b
  let own : Standing := ⟨cost, ← nodesSinceFault b, cell.bonus, isAtFault⟩
  for c in [0:← branchCount] do
    let other ← branch c
    let isAhead := cell.position ≤ (← cellAt other.top).position
    if c != b && other.status == .active && isAhead then
      match own.verdict (← standing c) with
      | .takeSecond => return true
      | .preferSecond => if ← canMerge c b then return true
      | _ => pure ()
  return false

/-- Whether a reading has read anything since it went wrong. -/
def hasProgress (b : Nat) : ParseM Bool := do
  let p ← get
  let branch ← branch b
  let mut cell := p.stack.cellAt branch.top
  if cell.cost = 0 then return true
  for _ in [0:p.stack.cells.size] do
    match cell.links.head? with
    | some ⟨below, some part⟩ =>
      if 0 < part.bytes p.source then return true
      if branch.nodesAtFault < cell.nodes && part.cost = 0 then
        cell := p.stack.cellAt below
      else return false
    | _ => return false
  return false

end ParseM

end ModelSchema.Parsing
