import ModelSchema.Watch.EventFilter
import ModelSchema.Watch.Slot

/-!
# Debouncing

A burst of events asks for one pass: the first event that qualifies opens a burst, and the pass is
requested once no event has come for a while. When no further event can come the slot is closed.

## Main definitions

* `Debouncer` — waiting for a burst, inside one, or about to use the slot.
* `Debouncer.receive`, `Debouncer.act` — what an input does to it, and what it does to the slot.
* `Debouncer.step` — an input and all that the debouncer does about it.
* `Debouncer.runBursts` — bursts with a pause behind each of them.
-/

namespace ModelSchema

/-- The state of the debouncer. -/
inductive Debouncer where
  | idle
  /-- Inside a burst that touched these paths. -/
  | settling (changed : List Path)
  /-- A burst is over and its pass not requested yet; `more` tells whether events can still come. -/
  | requesting (more : Bool)
  /-- No event can come any more and the slot is not closed yet. -/
  | closing
  | done
deriving DecidableEq, Repr

namespace Debouncer

/-- What can happen to the debouncer. -/
inductive Input where
  | event (e : WatchEvent)
  /-- No event came for a while. -/
  | quiet
  /-- No event can come any more. -/
  | disconnected
deriving DecidableEq, Repr

/-- The debouncer waits for the next event. -/
def isListening : Debouncer → Bool
  | .idle | .settling _ => true
  | _ => false

/-- The debouncer after an input. -/
def receive (f : EventFilter) (d : Debouncer) : Input → Debouncer
  | .event e =>
    match d with
    | .idle => match f.qualifying e with
      | [] => .idle
      | paths => .settling paths
    | .settling changed => .settling (changed ++ f.qualifying e)
    | d => d
  | .quiet =>
    match d with
    | .settling _ => .requesting true
    | d => d
  | .disconnected =>
    match d with
    | .idle => .closing
    | .settling _ => .requesting false
    | d => d

/-- The debouncer after a request. -/
def afterRequest (more : Bool) : Debouncer := if more then .idle else .closing

/-- What the debouncer does next to the slot, if it is about to do something. -/
def act (d : Debouncer) (slot : Slot) : Debouncer × Slot :=
  match d with
  | .requesting more => (afterRequest more, slot.request.2)
  | .closing => (.done, slot.close)
  | d => (d, slot)

/-- The debouncer and the slot after an input, when nobody else uses the slot meanwhile: there are
at most a request and the closing to be done. -/
def step (f : EventFilter) (d : Debouncer) (slot : Slot) (input : Input) : Debouncer × Slot :=
  let (d, slot) := (d.receive f input).act slot
  d.act slot

/-- The debouncer and the slot after several inputs. -/
def steps (f : EventFilter) (d : Debouncer) (slot : Slot) (inputs : List Input) :
    Debouncer × Slot :=
  inputs.foldl (fun (d, slot) input => step f d slot input) (d, slot)

/-- Bursts with a pause behind each of them, after which the pending pass is taken if `take` is
set; then no more events. Tells for each burst whether a pass was taken, and whether one is left. -/
def runBursts (f : EventFilter) (take : Bool) (bursts : List (List WatchEvent)) :
    List Bool × Bool :=
  let (taken, d, slot) := bursts.foldl (fun (taken, d, slot) burst =>
    let (d, slot) := steps f d slot (burst.map .event ++ [.quiet])
    let takes := take && slot.pending
    (taken ++ [takes], d, if takes then slot.poll.2 else slot)) ([], Debouncer.idle, ({} : Slot))
  let (_, slot) := step f d slot .disconnected
  (taken, slot.pending)

end Debouncer

end ModelSchema
