import ModelSchema.Parsing.Part

/-!
# Stacks with branches

The parts read so far and the states between them. Where a source can be read in several ways the
stack branches, and branches that lead to the same state come together again, so that what they have
in common is kept once.

## Main definitions

* `Cell`, `Link` — a state in a stack, and a way down from it.
* `Stack.push`, `Stack.join` — one part more, and two branches that come together.
* `Stack.visits` — the ways down from a cell.
-/

namespace ModelSchema.Parsing

open Grammar

/-- A way down in a stack: a part and the cell below it. Where reading went wrong there is a way
without a part. -/
structure Link where
  below : Nat
  part : Option Part

/-- A state in a stack, with totals over what lies below. -/
structure Cell where
  state : Nat
  position : Nat
  cost : Nat
  /-- How many nodes lie below. -/
  nodes : Nat
  bonus : Int
  links : List Link
deriving Inhabited

/-- The cells of a stack by number. -/
structure Stack where
  cells : Array Cell

/-- A way down from a cell: the cell that it leads to, the parts on it from below, and how many
steps it takes. -/
structure Way where
  cell : Nat
  parts : List Part
  depth : Nat

namespace Stack

/-- The most links of a cell, and the most ways that are followed at once. -/
def linkLimit : Nat := 8
def wayLimit : Nat := 64

variable (s : Stack)

def cellAt (n : Nat) : Cell := s.cells[n]!

/-- The stack before the source. -/
def initial : Stack := ⟨#[⟨startState, 0, 0, 0, 0, []⟩]⟩

/-- A cell above another one. -/
def above (below : Nat) (part : Option Part) (state : Nat) : Cell :=
  let c := s.cellAt below
  match part with
  | none => ⟨state, c.position, c.cost, c.nodes, c.bonus, [⟨below, none⟩]⟩
  | some p =>
    ⟨state, p.info.stop, c.cost + p.cost, c.nodes + p.nodes, c.bonus + p.info.bonus,
      [⟨below, some p⟩]⟩

/-- Puts a part on a cell and gives the number of the cell above. -/
def push (below : Nat) (part : Option Part) (state : Nat) : Nat × Stack :=
  let cell := s.above below part state
  (s.cells.size, ⟨s.cells.push cell⟩)

/-! ## Coming together -/

/-- Whether two cells can come together. -/
def canJoin (m n : Nat) : Bool :=
  let a := s.cellAt m
  let b := s.cellAt n
  a.state == b.state && a.position == b.position && a.cost == b.cost

def linkBonus (l : Link) : Int :=
  (s.cellAt l.below).bonus + ((l.part.map (·.info.bonus)).getD 0)

def isAlike (p q : Option Part) : Bool :=
  match p, q with
  | some p, some q => p.isAlike q
  | none, none => true
  | _, _ => false

/-- The first link of a cell that a new one is the same as or can come together with. -/
def likeLink? (cell : Nat) (l : Link) : Option Nat :=
  (s.cellAt cell).links.findIdx? fun known =>
    isAlike known.part l.part && (known.below == l.below || s.canJoin known.below l.below)

def setCell (n : Nat) (c : Cell) : Stack := ⟨s.cells.set! n c⟩

/-- Adds a link to a cell. -/
def addNew (cell : Nat) (l : Link) : Stack :=
  let c := s.cellAt cell
  if linkLimit ≤ c.links.length then s
  else
    let nodes := (s.cellAt l.below).nodes + ((l.part.map (·.nodes)).getD 0)
    s.setCell cell { c with
      links := c.links ++ [l]
      nodes := max c.nodes nodes
      bonus := max c.bonus (s.linkBonus l) }

/-- Prefers the part of a link with a higher bonus to one between the same cells. -/
def addSame (cell i : Nat) (l : Link) : Stack :=
  let c := s.cellAt cell
  match l.part, (c.links[i]?).bind (·.part) with
  | some p, some q =>
    if q.info.bonus < p.info.bonus then
      s.setCell cell { c with links := c.links.set i l, bonus := s.linkBonus l }
    else s
  | _, _ => s

/-- Adds a link to a cell; where it is like a known one, the cells below come together. -/
def addLink : Nat → Stack → Nat → Link → Stack
  | 0, s, cell, l => s.addNew cell l
  | fuel + 1, s, cell, l =>
    if l.below = cell then s
    else
      match s.likeLink? cell l with
      | none => s.addNew cell l
      | some i =>
        let known := ((s.cellAt cell).links[i]?.map (·.below)).getD l.below
        if known = l.below then s.addSame cell i l
        else
          let s := (s.cellAt l.below).links.foldl (fun s link => addLink fuel s known link) s
          let c := s.cellAt cell
          s.setCell cell { c with bonus := max c.bonus (s.linkBonus l) }

/-- Brings one cell together with another one, which has the same state. -/
def join (m n : Nat) : Stack :=
  (s.cellAt n).links.foldl (fun t l => addLink s.cells.size t m l) s

/-! ## Ways down -/

/-- One step down every way: those that were looked at, and those to look at next. -/
def stepDown (stop : Way → Bool) (ways : List Way) : List Way := Id.run do
  let mut ahead : Array Way := #[]
  let mut aside : Array Way := #[]
  let mut count := ways.length
  for w in ways do
    match stop w, (s.cellAt w.cell).links with
    | false, l :: others =>
      for other in others do
        if count < wayLimit then
          aside := aside.push (follow w other)
          count := count + 1
      ahead := ahead.push (follow w l)
    | _, _ => count := count - 1
  return (ahead ++ aside).toList
where
  follow (w : Way) (l : Link) : Way :=
    match l.part with
    | some p => ⟨l.below, p :: w.parts, if p.isExtra then w.depth else w.depth + 1⟩
    | none => ⟨l.below, w.parts, w.depth + 1⟩

/-- The ways down from a cell, shorter ones first, as far as they are not stopped. -/
def visits (stop : Way → Bool) (cell : Nat) : List Way := Id.run do
  let mut ways : List Way := [⟨cell, [], 0⟩]
  let mut seen : Array Way := #[]
  for _ in [0:s.cells.size] do
    seen := ways.foldl (·.push) seen
    ways := s.stepDown stop ways
    if ways.isEmpty then break
  return seen.toList

/-- Ways that lead to the same cell together, in the order of the first ones. -/
def groups (ways : List Way) : List (Nat × List (List Part)) :=
  (ways.map (·.cell)).eraseDups.map fun cell =>
    (cell, (ways.filter (·.cell == cell)).map (·.parts))

/-- The ways that take a number of steps. -/
def waysOf (depth cell : Nat) : List (Nat × List (List Part)) :=
  groups ((s.visits (·.depth == depth) cell).filter (·.depth == depth))

/-- The ways to the bottom. -/
def waysDown (cell : Nat) : List (Nat × List (List Part)) :=
  groups ((s.visits (fun _ => false) cell).filter fun w => (s.cellAt w.cell).links.isEmpty)

end Stack

end ModelSchema.Parsing
