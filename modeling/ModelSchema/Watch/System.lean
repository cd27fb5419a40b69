import ModelSchema.Watch.Debouncer

/-!
# Watching and running passes at the same time

The debouncer and a worker share a slot. The debouncer receives events and requests passes; the
worker waits for a pass, runs it and waits again until it is told to stop. The time that a pass
takes lies between two looks of the worker at the slot.

## Main definitions

* `WatchSystem`, `WatchSystem.Step` — the debouncer and the worker, and every step they can take.
* `WatchSystem.bursts` — the events received before each pause.
-/

namespace ModelSchema

/-- The debouncer and a worker that share a slot. -/
structure WatchSystem where
  /-- The events that have not been received, in order. -/
  incoming : List WatchEvent
  debouncer : Debouncer := .idle
  slots : SlotSystem := {}
  /-- The worker's last wait told it to stop. -/
  stopped : Bool := false
deriving DecidableEq, Repr

namespace WatchSystem

/-- The thread of the worker. -/
def worker : ThreadId := 0

/-- What happens to the debouncer, or what it or the worker does to the slot. -/
inductive Action where
  | input (i : Debouncer.Input)
  | slot (a : SlotSystem.Action)
deriving DecidableEq, Repr

/-- The event that is received, if one is. -/
def Action.event? : Action → Option WatchEvent
  | .input (.event e) => some e
  | _ => none

/-- What is done to the slot, if anything is. -/
def Action.slot? : Action → Option SlotSystem.Action
  | .slot a => some a
  | _ => none

/-- The worker is handed a pass, which it starts. -/
def Action.startPass : Action := .slot (.look worker .pass)

/-- The worker is told to stop. -/
def Action.stop : Action := .slot (.look worker .finished)

/-- A step of the debouncer or of the worker. A quiet time may end at any moment, also while events
wait to be received; between a request and the closing behind it the worker may run. -/
inductive Step (f : EventFilter) : WatchSystem → Action → WatchSystem → Prop where
  | event (s : WatchSystem) (e : WatchEvent) (rest : List WatchEvent) :
      s.incoming = e :: rest → s.debouncer.isListening →
      Step f s (.input (.event e))
        { s with incoming := rest, debouncer := s.debouncer.receive f (.event e) }
  | quiet (s : WatchSystem) (changed : List Path) : s.debouncer = .settling changed →
      Step f s (.input .quiet) { s with debouncer := s.debouncer.receive f .quiet }
  | disconnected (s : WatchSystem) : s.incoming = [] → s.debouncer.isListening →
      Step f s (.input .disconnected) { s with debouncer := s.debouncer.receive f .disconnected }
  | request (s : WatchSystem) (more isNew : Bool) (slots : SlotSystem) :
      s.debouncer = .requesting more → SlotSystem.Step s.slots (.request isNew) slots →
      Step f s (.slot (.request isNew))
        { s with debouncer := (s.debouncer.act s.slots.slot).1, slots }
  | close (s : WatchSystem) (slots : SlotSystem) : s.debouncer = .closing →
      SlotSystem.Step s.slots .close slots →
      Step f s (.slot .close) { s with debouncer := (s.debouncer.act s.slots.slot).1, slots }
  /-- The worker looks at the slot, at the start of a wait or because it was woken. -/
  | look (s : WatchSystem) (found : PollResult) (slots : SlotSystem) : s.stopped = false →
      SlotSystem.Step s.slots (.look worker found) slots →
      Step f s (.slot (.look worker found)) { s with slots, stopped := found == .finished }
  | stir (s : WatchSystem) (slots : SlotSystem) : SlotSystem.Step s.slots (.stir worker) slots →
      Step f s (.slot (.stir worker)) { s with slots }

/-- The bursts of a run: the events received before each pause, and those behind the last one. -/
structure Bursts where
  settled : List (List WatchEvent) := []
  current : List WatchEvent := []
deriving DecidableEq, Repr

/-- The bursts when one more action is taken. A quiet time is a pause, and so is the end of all
events. -/
def Bursts.record (b : Bursts) : Action → Bursts
  | .input (.event e) => { b with current := b.current ++ [e] }
  | .input .quiet | .input .disconnected => { settled := b.settled ++ [b.current] }
  | .slot _ => b

/-- The bursts of a run. -/
def bursts (actions : List Action) : Bursts := actions.foldl Bursts.record {}

end WatchSystem

end ModelSchema
