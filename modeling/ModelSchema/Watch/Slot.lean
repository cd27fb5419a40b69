/-!
# The slot for a pass

At most one pass is pending. Any thread may request one or close the slot; a thread that waits
takes the pending pass, sleeps while there is none, and goes away once the slot is closed and
empty.

## Main definitions

* `Slot`, `Slot.request`, `Slot.close`, `Slot.poll` — the slot and the critical sections on it.
* `Run` — the steps of a system one after the other.
* `SlotSystem`, `SlotSystem.Step` — threads that share a slot, and every step they can take.
* `SlotSystem.requestNow`, `SlotSystem.closeNow`, `SlotSystem.waitNow` — the operations when a
  woken thread always runs next.
-/

namespace ModelSchema

/-- Whether a pass is pending and whether the slot is closed. -/
structure Slot where
  pending : Bool := false
  closed : Bool := false
deriving DecidableEq, Repr

/-- What a waiting thread finds. -/
inductive PollResult where
  /-- A pass to run. -/
  | pass
  /-- Nothing, and nothing will come. -/
  | finished
  /-- Nothing yet. -/
  | nothing
deriving DecidableEq, Repr

namespace Slot

/-- A pass is asked for; tells whether none was pending. -/
def request (s : Slot) : Bool × Slot := (!s.pending, { s with pending := true })

/-- No further passes will be asked for. -/
def close (s : Slot) : Slot := { s with closed := true }

/-- What a waiting thread finds; a pending pass is handed out even when the slot is closed. -/
def poll (s : Slot) : PollResult × Slot :=
  if s.pending then (.pass, { s with pending := false })
  else if s.closed then (.finished, s)
  else (.nothing, s)

end Slot

/-- The states that a system reaches from a first one, with the actions on the way. -/
inductive Run {σ α : Type} (step : σ → α → σ → Prop) (first : σ) : List α → σ → Prop where
  | start : Run step first [] first
  | step {actions : List α} {s s' : σ} {a : α} :
      Run step first actions s → step s a s' → Run step first (actions ++ [a]) s'

/-- A thread that uses the slot. -/
abbrev ThreadId := Nat

/-- Threads that share a slot: those that sleep until they are woken, and those that have been
woken and not looked again. -/
structure SlotSystem where
  slot : Slot := {}
  sleeping : List ThreadId := []
  woken : List ThreadId := []
deriving DecidableEq, Repr

namespace SlotSystem

/-- What a thread does in one critical section, and what it is told there. -/
inductive Action where
  /-- A request, and whether no other one was pending. -/
  | request (isNew : Bool)
  | close
  /-- A waiting thread looks at the slot, and goes away with what it finds unless that is
  nothing. -/
  | look (t : ThreadId) (found : PollResult)
  /-- A sleeping thread wakes up without having been woken. -/
  | stir (t : ThreadId)
deriving DecidableEq, Repr

/-- A sleeping thread woken. -/
def wake (s : SlotSystem) (t : ThreadId) : SlotSystem :=
  { s with sleeping := s.sleeping.erase t, woken := t :: s.woken }

/-- A request without its wake-up. -/
def request (s : SlotSystem) : SlotSystem := { s with slot := s.slot.request.2 }

/-- The slot closed, and every sleeping thread woken. -/
def close (s : SlotSystem) : SlotSystem :=
  { s with slot := s.slot.close, sleeping := [], woken := s.sleeping ++ s.woken }

/-- A thread that is awake looks at the slot, and goes to sleep if it finds nothing. -/
def look (s : SlotSystem) (t : ThreadId) : SlotSystem :=
  match s.slot.poll with
  | (.nothing, slot) => { s with slot, sleeping := t :: s.sleeping }
  | (_, slot) => { s with slot }

/-- A step of some thread. -/
inductive Step : SlotSystem → Action → SlotSystem → Prop where
  /-- A request finds no thread asleep. -/
  | request (s : SlotSystem) : s.sleeping = [] → Step s (.request s.slot.request.1) s.request
  /-- A request wakes one of the sleeping threads. -/
  | requestWaking (s : SlotSystem) (t : ThreadId) : t ∈ s.sleeping →
      Step s (.request s.slot.request.1) (s.request.wake t)
  | close (s : SlotSystem) : Step s .close s.close
  /-- A thread starts to wait. -/
  | enter (s : SlotSystem) (t : ThreadId) : t ∉ s.sleeping → t ∉ s.woken →
      Step s (.look t s.slot.poll.1) (s.look t)
  /-- A woken thread looks again. -/
  | again (s : SlotSystem) (t : ThreadId) : t ∈ s.woken →
      Step s (.look t s.slot.poll.1) ({ s with woken := s.woken.erase t }.look t)
  | stir (s : SlotSystem) (t : ThreadId) : t ∈ s.sleeping → Step s (.stir t) (s.wake t)

/-! ## Operations one after the other -/

/-- The woken threads look again, the first one first; tells what each of them finds. -/
def runWoken (s : SlotSystem) : SlotSystem × List PollResult :=
  s.woken.foldl (fun (s, found) t =>
    ({ s with woken := s.woken.erase t }.look t, found ++ [s.slot.poll.1])) (s, [])

/-- A request, after which a sleeping thread takes the pass if there is one; tells whether the
request was new and what the thread finds. -/
def requestNow (s : SlotSystem) : SlotSystem × Bool × List PollResult :=
  let isNew := s.slot.request.1
  let requested := match s.sleeping.getLast? with
    | some t => s.request.wake t
    | none => s.request
  let (after, found) := requested.runWoken
  (after, isNew, found)

/-- The slot closed, after which every sleeping thread looks again; tells what these find. -/
def closeNow (s : SlotSystem) : SlotSystem × List PollResult := s.close.runWoken

/-- A thread waits; tells what it finds. -/
def waitNow (s : SlotSystem) (t : ThreadId) : SlotSystem × PollResult :=
  (s.look t, s.slot.poll.1)

end SlotSystem

end ModelSchema
