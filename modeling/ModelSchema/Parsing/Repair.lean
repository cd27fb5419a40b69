import ModelSchema.Parsing.Advance

/-!
# Repairs

What a reading does with a token that does not fit. It may take a token for missing, go back to a
place below where the token fits and pass over what lies between, or pass over the token. Each
repair has its cost, and readings with different repairs go on side by side until one is clearly
worth less.

## Main definitions

* `ParseM.reduceAll` — all that can be put together at a place.
* `ParseM.recover` — goes back, or passes over a token.
* `ParseM.handleFault` — the first repairs at a token that does not fit.
-/

namespace ModelSchema.Parsing.ParseM

open Grammar

/-! ## Putting together all that fits -/

/-- What may be done in a state with a token, or with any token: the reductions, one for each symbol
and number of parts, and whether a token can be read. -/
def possible (state : Nat) (token : Option Nat) : ParseM (List Reduction × Bool) := do
  let t ← table
  let mut reductions : Array Reduction := #[]
  let mut canRead := false
  let expected := ((← get).automaton.stateAt state).expected
  let tokens :=
    match token with
    | some n => [n]
    | none => expected.below t.numbering.endToken
  for n in tokens do
    for action in ← actions state n do
      match action with
      | .shift _ grows => if !grows then canRead := true
      | .reduce r =>
        if 0 < r.count && !reductions.any (fun q => q.of == r.of && q.count == r.count) then
          reductions := reductions.push r
      | _ => pure ()
  if state = faultState then canRead := true
  return (reductions.toList, canRead)

/-- Brings a reading together with one of the readings from a place on. -/
def mergeFrom (start b : Nat) : ParseM Bool := do
  for other in [start:b] do
    if ← merge other b then return true
  return false

/-- The most rounds of putting parts together at a fault. -/
def roundLimit : Nat := 1000

/-- Puts together all that can be put together on a reading, whatever comes next, or before a given
token. New readings stand last. Whether a token can be read on one of them is the answer. -/
def reduceAll (b : Nat) (token : Option Nat) : ParseM Bool := do
  let start ← branchCount
  let mut canRead := false
  let mut current := b
  for i in [0:roundLimit] do
    if (← branchCount) ≤ current then break
    if !(← mergeFrom start current) then
      let (reductions, reads) ← possible (← topOf current).state token
      let before ← branchCount
      let mut last : Option Nat := none
      for r in reductions do
        let first ← branchCount
        last := if ← reduce current r then some first else none
      canRead := canRead || reads
      match reads, last with
      | false, some first =>
        if i < branchLimit then
          replaceBranch first current
          continue
        else if token.isSome then removeBranch current
      | false, none => if token.isSome then removeBranch current
      | true, _ => pure ()
      current := if current = b then before else current + 1
  return canRead

/-! ## Going back -/

/-- The places below a reading to which it may go back. -/
def placesBelow (stack : Stack) (cell : Nat) : List ReturnPoint := Id.run do
  let mut found : Array ReturnPoint := #[]
  for way in stack.visits (fun w => depthLimit < w.depth) cell do
    if way.depth ≤ depthLimit then
      let c := stack.cellAt way.cell
      let known := (found.toList.reverse.takeWhile fun r => way.depth ≤ r.depth).any fun r =>
        r.depth == way.depth && r.state == c.state
      if !known then found := found.push ⟨c.position, way.depth, c.state⟩
  return found.toList
where
  depthLimit : Nat := 16

/-- The stretch that fits nothing on top of a reading, which is taken off. -/
def popFault (b : Nat) : ParseM (List Part) := do
  let branch ← branch b
  let p ← get
  if !(p.stack.cellAt branch.top).links.any (fun l => l.part.any (·.isFault)) then return []
  let ways := p.stack.visits (fun w => !w.parts.isEmpty) branch.top
  match ways.find? fun w => w.parts.head?.any (·.isFault) with
  | none => return []
  | some way =>
    let made ← addBranch way.cell branch.nodesAtFault .active
    replaceBranch made b
    return way.parts

/-- Takes a reading back to a state some steps below; what lies between fits nothing. The new
reading stands last. -/
def goBack (b depth goal : Nat) : ParseM Bool := do
  let source := (← get).source
  let mut done := false
  for (made, alternatives) in ← branchesBelow b depth do
    if (← topOf made).state != goal then setStatus made .halted
    else
      let between := alternatives.headD []
      let fault ← popFault made
      let inner := (fault.head?.map (·.parts)).getD []
      let (parts, extras) := Part.splitExtras (inner ++ between)
      if !parts.isEmpty then
        push made (some ((Part.gatherFault source .fault parts 0).asExtra true)) goal
      for extra in extras do push made (some extra) goal
      done := true
  return done

/-- Goes back to the nearest place below where a token fits. -/
def goBackFor (b symbol : Nat) : ParseM Bool := do
  let p ← get
  let count ← branchCount
  let position := (← topOf b).position
  let since ← nodesSinceFault b
  let cost ← costOf b
  for place in ((← branch b).returnPoints).getD [] do
    if place.state != faultState && place.position != position then
      let depth := if 0 < since then place.depth + 1 else place.depth
      let mut isKnown := false
      for other in [0:count] do
        let cell ← topOf other
        if cell.state = place.state && cell.position = position then isKnown := true
      if !isKnown then
        let cost := cost + costs.skippedPart +
          costs.skippedByte * p.source.bytes place.position position +
          costs.skippedLine * p.source.lines place.position position
        if ← isHopeless b false cost then return false
        if !(← actions place.state symbol).isEmpty then
          if ← goBack b depth place.state then return true
  return false

/-! ## Passing over -/

/-- The token as a part that may stand anywhere, if tokens of its kind may. -/
def markExtra (token : Part) : ParseM Part := do
  match token.kind with
  | .symbol n => return token.asExtra ((← table).extras.contains n || token.isExtra)
  | _ => return token

/-- Passes over a token. -/
def skip (b : Nat) (token : Part) : ParseM Unit := do
  let p ← get
  let position := (← topOf b).position
  let skipped := Part.gatherFault p.source .skipped [← markExtra token] position
  if (← nodesSinceFault b) = 0 then push b (some skipped) faultState
  else
    match ← branchesBelow b 1 with
    | [] => push b (some skipped) faultState
    | (made, alternatives) :: others =>
      for _ in others do removeBranch (made + 1)
      replaceBranch made b
      let all := Part.gatherFault p.source .skipped (alternatives.headD [] ++ [skipped]) position
      push b (some all) faultState

/-- Goes on with a reading that has gone wrong: back to a place where the token fits, and as well,
unless that is hopeless, past the token. -/
def recover (b : Nat) (token : Part) : ParseM Unit := do
  let p ← get
  let t := p.automaton.table
  let count ← branchCount
  let wentBack ←
    match token.kind with
    | .symbol n => goBackFor b n
    | _ => pure false
  modify fun p => { p with
    branches := p.branches.extract 0 count ++
      (p.branches.extract count p.branches.size).filter (·.status == .active) }
  if wentBack && branchLimit < (← branchCount) then setStatus b .halted
  else if token.kind == .symbol t.numbering.endToken then
    let position := (← topOf b).position
    push b (some (Part.gatherFault p.source .fault [] position)) startState
    accept b token
  else
    let cost := (← costOf b) + costs.skippedPart + costs.skippedByte * token.bytes p.source +
      costs.skippedLine * token.lines p.source
    if ← isHopeless b false cost then setStatus b .halted
    else skip b token

/-! ## The first repairs -/

/-- Takes a token for missing on a reading, where the next token fits behind it. -/
def guessMissing (b : Nat) (token : Part) : ParseM Bool := do
  let t ← table
  let position := (← topOf b).position
  let state := (← topOf b).state
  let expected := ((← get).automaton.stateAt state).expected
  match token.kind with
  | .symbol symbol =>
    for guess in t.guesses do
      if expected.contains guess then
        if let some behind ← next state guess then
          let fits := match (← actions behind symbol).head? with
            | some (.reduce _) => behind != state
            | _ => false
          if fits then
            let old ← branch b
            let made ← addBranch old.top old.nodesAtFault old.status
            let missing := Part.leaf (.symbol guess) (isShown t guess) position position position
            match missing with
            | .mk info parts =>
              push made (some (.mk { info with isMissing := true } parts)) behind
            let before := if symbol = t.numbering.endToken then none else some symbol
            if ← reduceAll made before then return true
    return false
  | _ => return false

/-- The first repairs of a reading at a token that does not fit. -/
def handleFault (b : Nat) (token : Part) : ParseM Unit := do
  let previous ← branchCount
  let _ ← reduceAll b none
  let count ← branchCount
  let mut guessed := false
  for c in b :: (List.range count).filter (previous ≤ ·) do
    if !guessed then guessed ← guessMissing c token
    push c none faultState
  for _ in [previous:count] do
    let _ ← merge b previous
  let places := placesBelow (← get).stack (← branch b).top
  setBranch b fun branch => { branch with returnPoints := some places }
  recover b token

end ModelSchema.Parsing.ParseM
