import ModelSchema.Parsing.Branch

/-!
# Reading on

One step of a reading: the next token, and what the automaton says to do with it.

## Main definitions

* `ParseM.token` — the next token for a state.
* `ParseM.reduce` — parts put together.
* `ParseM.accept` — the end of a source.
-/

namespace ModelSchema.Parsing.ParseM

open Grammar

/-! ## Tokens -/

def table : ParseM Table := return (← get).automaton.table

/-- Whether a token or notion has a node of its own. -/
def isShown (t : Table) (symbol : Nat) : Bool :=
  match t.numbering.tokens[symbol]? with
  | some (.signal s) => s == .arrowComment
  | some _ => true
  | none => t.shown.contains symbol

/-- The token of that kind as a part. -/
def tokenPart (t : Table) (before : Nat) (found : Spanned Nat) : Part :=
  Part.leaf (.symbol found.value) (isShown t found.value) before found.start found.stop

/-- A word as the keyword that it is, if that may come. -/
def asKeyword (state before : Nat) (found : Spanned Nat) : ParseM Part := do
  let p ← get
  let t := p.automaton.table
  let text := String.ofList (p.source.between found.start found.stop)
  match t.words[text]? with
  | some word =>
    let mayCome := state == faultState || !(← actions state word).isEmpty
    let part := tokenPart t before (if mayCome then { found with value := word } else found)
    match part with
    | .mk info parts => return .mk { info with isWord := true } parts
  | none => return tokenPart t before found

/-- A token that the context decides on. One without text is none where reading has just gone wrong
or where it would change nothing. -/
def contextToken? (b state position : Nat) : ParseM (Option Part) := do
  let p ← get
  match Context.read? p.source (p.automaton.stateAt state).context position with
  | none => return none
  | some found =>
    let t := p.automaton.table
    let number := t.numbering.ofToken (.signal found.value)
    let part := tokenPart t position ⟨number, found.start, found.stop⟩
    if position < found.stop then return some part
    let changes := (← next state number) != some state
    if changes && (← hasProgress b) then return some part
    return none

/-- The token that a state expects at a position. -/
def expected? (state position : Nat) : ParseM (Option Part) := do
  let p ← get
  let t := p.automaton.table
  let s := p.automaton.stateAt state
  let end? := some t.numbering.endToken |>.filter s.expected.contains
  let outcome := Lexer.read p.source s.rules end? position
  match outcome.found with
  | none => return none
  | some found =>
    if found.value = t.identifier then return some (← asKeyword state position found)
    else return some (tokenPart t position found)

/-- The characters up to the next place where a token starts. -/
def unreadable (position : Nat) : ParseM Part := do
  let p ← get
  let fault := p.automaton.stateAt faultState
  let size := p.source.size
  let endToken := p.automaton.table.numbering.endToken
  let mut start := position
  let mut stop := position
  let mut current := position
  let mut isFirst := true
  for _ in [position:size + 2] do
    let outcome := Lexer.read p.source fault.rules (some endToken) current
    if outcome.found.isSome && !isFirst then break
    if isFirst then
      start := outcome.start
      stop := outcome.start
      isFirst := false
    if outcome.stop = stop then
      if size ≤ outcome.stop then break
      current := outcome.stop + 1
    else current := outcome.stop
    stop := current
  return Part.leaf .fault true position start stop

/-- The next token of a reading in a state. What no state expects is sought as a landmark, and
else is unreadable. -/
def token (b state : Nat) : ParseM Part := do
  let position := (← topOf b).position
  if state != faultState then
    if let some part ← contextToken? b state position then return part
    if let some part ← expected? state position then return part
  let p ← get
  let t := p.automaton.table
  let fault := p.automaton.stateAt faultState
  match (Lexer.read p.source fault.rules (some t.numbering.endToken) position).found with
  | some found =>
    if found.value = t.identifier then asKeyword state position found
    else return tokenPart t position found
  | none => unreadable position

/-! ## Putting parts together -/

/-- The part that a reduction makes of others. -/
def reduced (r : Reduction) (parts : List Part) (position : Nat) : ParseM Part := do
  let t ← table
  match Part.gather (.symbol r.of) r.marks.reverse (isShown t r.of) parts position with
  | .mk info parts => return .mk { info with bonus := info.bonus + r.bonus } parts

/-- The best of several readings of the same text. -/
def choose (r : Reduction) (position : Nat) : List (List Part) → ParseM (Part × List Part)
  | [] => return (← reduced r [] position, [])
  | ways :: rest => do
    let (parts, extras) := Part.splitExtras ways
    let mut best := (← reduced r parts position, extras)
    for way in rest do
      let (parts, extras) := Part.splitExtras way
      let other ← reduced r parts position
      if best.1.isBetter other then best := (other, extras)
    return best

/-- Puts parts together on a reading. The readings that come of it stand last; whether there are
any is the answer. -/
def reduce (b : Nat) (r : Reduction) : ParseM Bool := do
  let before ← branchCount
  let ways ← branchesBelow b r.count
  let mut removed := 0
  for (made, alternatives) in ways do
    let c := made - removed
    if branchLimit + branchReserve < c then
      removeBranch c
      removed := removed + 1
    else
      let cell ← topOf c
      let (part, extras) ← choose r cell.position alternatives
      let state := (← move cell.state r.of).getD faultState
      push c (some part) state
      for extra in extras do push c (some extra) state
      for other in [0:c] do
        if other != b then
          if ← merge other c then
            removed := removed + 1
            break
  return before < (← branchCount)

/-! ## The end -/

/-- Takes a reading of the whole source: its parts, with those of the whole as parts of their
own. -/
def finish (parts : List Part) : ParseM Unit := do
  let t ← table
  let source := (← get).source
  let isWhole (p : Part) : Bool := !p.isExtra && p.kind != .symbol t.numbering.endToken
  let back := parts.reverse
  match back.dropWhile (fun p => !isWhole p) with
  | [] => modify fun p => { p with finished := p.finished + 1 }
  | .mk info inner :: front =>
    let behind := (back.takeWhile fun p => !isWhole p).reverse
    let all := front.reverse ++ inner ++ behind
    let gathered :=
      if info.kind == .fault then Part.gatherFault source .fault all 0
      else Part.gather info.kind info.marks info.isShown all 0
    modify fun p => { p with
      finished := p.finished + 1
      best := match p.best with
        | none => some gathered
        | some best => some (if best.isBetter gathered then gathered else best) }

/-- Ends a reading with the end of the source. -/
def accept (b : Nat) (endOfSource : Part) : ParseM Unit := do
  push b (some endOfSource) startState
  let ways ← branchesAt b ((← get).stack.waysDown (← branch b).top)
  for (_, alternatives) in ways do
    for parts in alternatives do finish parts
  if let (made, _) :: _ := ways then removeBranch made
  setStatus b .halted

end ModelSchema.Parsing.ParseM
