import ModelSchema.Parsing.Automaton
import ModelSchema.Parsing.Source

/-!
# Parts of a source

What was read of a source: tokens, symbols put together from parts, and stretches that fit nothing.
Each part knows what it costs that something in it does not fit, by which one reading of a source is
compared with another.

## Main definitions

* `Part` — parts.
* `Part.leaf`, `Part.gather`, `Part.gatherFault` — how they are made.
* `Part.isBetter` — which of two parts of the same text is preferred.
-/

namespace ModelSchema.Parsing

open Grammar

/-- What a part is. -/
inductive PartKind where
  | symbol (n : Nat)
  /-- A stretch that fits nothing. -/
  | fault
  /-- Tokens that were passed over so far, while a place is sought where the source fits again. -/
  | skipped
deriving DecidableEq

/-- What is known of a part. -/
structure PartInfo where
  kind : PartKind
  /-- What the steps of the production say about the parts. -/
  marks : List Mark
  /-- Where the blanks before the part start. -/
  before : Nat
  start : Nat
  stop : Nat
  /-- Whether it may stand anywhere. -/
  isExtra : Bool
  /-- Whether it is not there but was guessed. -/
  isMissing : Bool
  /-- Whether it is a word that may be a name. -/
  isWord : Bool
  /-- Whether it has a node of its own. -/
  isShown : Bool
  /-- What does not fit in it. -/
  faults : Nat
  bonus : Int
  /-- How many nodes it has within, and how many of them directly. -/
  nodesWithin : Nat
  nodesBelow : Nat
  /-- How many parts it has within, itself included. -/
  size : Nat

/-- A part of a source. -/
inductive Part where
  | mk (info : PartInfo) (parts : List Part)

/-! ## Costs -/

/-- What is counted against a reading for each thing that does not fit. -/
structure Costs where
  fault : Nat
  missing : Nat
  skippedPart : Nat
  skippedLine : Nat
  skippedByte : Nat
  /-- How much dearer a reading may be than another one before it is given up, shared among the
  parts that the cheaper one has read since it went wrong. -/
  difference : Nat

def costs : Costs where
  fault := 500
  missing := 110
  skippedPart := 100
  skippedLine := 30
  skippedByte := 1
  difference := 1600

namespace Part

def info : Part → PartInfo
  | mk info _ => info

def parts : Part → List Part
  | mk _ parts => parts

def kind (p : Part) : PartKind := p.info.kind

def isFault (p : Part) : Bool := p.kind == .fault

def isExtra (p : Part) : Bool := p.info.isExtra

/-- What it costs that something in the part does not fit. -/
def cost (p : Part) : Nat :=
  if p.info.isMissing then costs.missing + costs.fault else p.info.faults

/-- How many nodes the part adds to a tree. -/
def nodes (p : Part) : Nat :=
  p.info.nodesWithin + (if p.info.isShown then 1 else 0) + (if p.kind = .skipped then 1 else 0)

/-- The length of the part in bytes, with the blanks before it. -/
def bytes (s : SourceText) (p : Part) : Nat := s.bytes p.info.before p.info.stop

/-- The lines that the part ends, with the blanks before it. -/
def lines (s : SourceText) (p : Part) : Nat := s.lines p.info.before p.info.stop

/-! ## Making parts -/

/-- A token or a stretch of characters that starts no token. -/
def leaf (kind : PartKind) (isShown : Bool) (before start stop : Nat) : Part :=
  mk ⟨kind, [], before, start, stop, false, false, false, isShown, 0, 0, 0, 0, 1⟩ []

def asExtra (isExtra : Bool) : Part → Part
  | mk info parts => mk { info with isExtra } parts

/-- What a part that fits nothing itself adds to the cost of a stretch that fits nothing. -/
def skipCost (p : Part) : Nat :=
  if p.isExtra || (p.isFault && p.parts.isEmpty) then 0
  else if p.info.isShown then costs.skippedPart
  else if p.parts.isEmpty then 0
  else costs.skippedPart * p.info.nodesBelow

/-- Adds up what is known of parts; each part that may not stand anywhere takes a mark. -/
def total (info : PartInfo) (marks : List Mark) : List Part → PartInfo
  | [] => info
  | p :: rest =>
    let isLabeled := !p.isExtra && ((marks.head?).bind (·.label)).isSome
    let own := if isLabeled || p.info.isShown then 1 else 0
    let direct := if isLabeled || p.info.isShown then 1
      else if p.parts.isEmpty then 0 else p.info.nodesBelow
    let info := { info with
      faults := info.faults + (if p.kind = .skipped then 0 else p.cost)
      bonus := info.bonus + p.info.bonus
      nodesWithin := info.nodesWithin + p.info.nodesWithin + own
      nodesBelow := info.nodesBelow + direct
      size := info.size + p.info.size }
    total info (if p.isExtra then marks else marks.tail) rest

/-- A part made of others; without any it is empty and stands at a position. -/
def gather (kind : PartKind) (marks : List Mark) (isShown : Bool) (parts : List Part)
    (position : Nat) : Part :=
  let before := ((parts.head?).map (·.info.before)).getD position
  let start := ((parts.head?).map (·.info.start)).getD position
  let stop := ((parts.getLast?).map (·.info.stop)).getD position
  mk (total ⟨kind, marks, before, start, stop, false, false, false, isShown, 0, 0, 0, 0, 1⟩
    marks parts) parts

/-- Parts that fit nothing as one part. -/
def gatherFault (s : SourceText) (kind : PartKind) (parts : List Part) (position : Nat) : Part :=
  match gather kind [] (kind == .fault) parts position with
  | mk info parts =>
    mk { info with
      faults := parts.foldl (· + skipCost ·) info.faults + costs.fault +
        costs.skippedByte * s.bytes info.start info.stop +
        costs.skippedLine * s.lines info.start info.stop } parts

/-! ## Comparing parts -/

/-- The order of kinds. -/
def kindOrder : PartKind → PartKind → Ordering
  | .symbol m, .symbol n => compare m n
  | .symbol _, _ => .gt
  | _, .symbol _ => .lt
  | .fault, .fault | .skipped, .skipped => .eq
  | .skipped, .fault => .lt
  | .fault, .skipped => .gt

mutual

/-- The order of parts by what they are made of. -/
def order : Part → Part → Ordering
  | mk info parts, mk info' parts' =>
    ((kindOrder info.kind info'.kind).then (compare parts.length parts'.length)).then
      (orderAll parts parts')

def orderAll : List Part → List Part → Ordering
  | p :: ps, q :: qs => (order p q).then (orderAll ps qs)
  | _, _ => .eq

end

/-- Whether another part of the same text is preferred to a part. -/
def isBetter (p other : Part) : Bool :=
  if p.cost != other.cost then other.cost < p.cost
  else if p.info.bonus != other.info.bonus then p.info.bonus < other.info.bonus
  else 0 < p.cost || order p other == .gt

/-- Whether two parts are as good as the same for what follows. -/
def isAlike (p q : Part) : Bool :=
  p.kind == q.kind &&
    ((0 < p.cost && 0 < q.cost) ||
      (p.info.start - p.info.before == q.info.start - q.info.before &&
        p.info.stop - p.info.start == q.info.stop - q.info.start &&
        p.parts.length == q.parts.length && p.isExtra == q.isExtra))

/-- Parts without those at the end that may stand anywhere, and these. -/
def splitExtras (parts : List Part) : List Part × List Part :=
  let back := parts.reverse
  ((back.dropWhile isExtra).reverse, (back.takeWhile isExtra).reverse)

end Part

end ModelSchema.Parsing
