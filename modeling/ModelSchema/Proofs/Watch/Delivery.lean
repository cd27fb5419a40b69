import Mathlib.Data.List.Induction
import ModelSchema.Proofs.Watch.Slot
import ModelSchema.Watch.System

/-!
# No change is lost

An event that qualifies is owed a pass until one is started. What is owed is never forgotten: it is
in the burst of the debouncer, in the request that the debouncer is about to make, or in the pass
that is pending. When the worker is told to stop there is none of these, so nothing is owed.

## Main definitions

* `EventFilter.qualifies` — the events that ask for a pass.
* `WatchSystem.Owed` — an event that qualifies has no pass behind it.
* `WatchSystem.Delivers`, `WatchSystem.Counts`, `WatchSystem.ClosesLast` — what holds after any
  steps.

## Main statements

* `WatchSystem.Step.delivers`, `WatchSystem.Step.counts`, `WatchSystem.Step.closesLast` — one step.
* `WatchSystem.exists_step` — the system is not stuck before the worker is told to stop.
* `WatchSystem.no_change_lost` — every run.
-/

namespace ModelSchema

/-- Some path of the event asks for a pass. -/
def EventFilter.qualifies (f : EventFilter) (e : WatchEvent) : Bool := !(f.qualifying e).isEmpty

namespace Debouncer

variable {d : Debouncer} {f : EventFilter} {e : WatchEvent} {more : Bool}

/-- A burst that qualifies is not over, or its pass has not been requested. -/
def hasBurst : Debouncer → Bool
  | .settling _ | .requesting _ => true
  | _ => false

/-- The next thing that the debouncer does is a request. -/
def owesRequest : Debouncer → Bool
  | .requesting _ => true
  | _ => false

/-- The debouncer may receive an event now or later. -/
def mayReceive : Debouncer → Bool
  | .idle | .settling _ | .requesting true => true
  | _ => false

theorem isListening_receive_event (h : d.isListening = true) (f : EventFilter) (e : WatchEvent) :
    (d.receive f (.event e)).isListening = true := by
  cases d with
  | idle => simp only [receive]; split <;> rfl
  | settling changed => rfl
  | _ => cases h

/-- An event leaves the debouncer inside a burst if it was there before or the event qualifies. -/
theorem hasBurst_receive_event (h : d.isListening = true)
    (burst : d.hasBurst = true ∨ f.qualifies e = true) :
    (d.receive f (.event e)).hasBurst = true := by
  cases d with
  | idle =>
    have qualifies : f.qualifying e ≠ [] := by
      simpa [hasBurst, EventFilter.qualifies] using burst
    cases found : f.qualifying e with
    | nil => exact absurd found qualifies
    | cons p ps => simp [receive, found, hasBurst]
  | settling changed => rfl
  | _ => cases h

theorem hasBurst_receive_disconnected (h : d.isListening = true) (burst : d.hasBurst = true)
    (f : EventFilter) : (d.receive f .disconnected).hasBurst = true := by
  cases d with
  | settling changed => rfl
  | idle => cases burst
  | _ => cases h

/-- A burst goes on, or an event that qualifies opens it. -/
theorem qualifies_of_receive_event {changed : List Path}
    (h : d.receive f (.event e) = .settling changed) :
    (∃ before, d = .settling before) ∨ f.qualifies e = true := by
  cases d with
  | idle =>
    cases found : f.qualifying e with
    | nil => simp [receive, found] at h
    | cons p ps => exact .inr (by simp [EventFilter.qualifies, found])
  | settling before => exact .inl ⟨before, rfl⟩
  | _ => cases h

theorem mayReceive_of_isListening (h : d.isListening = true) : d.mayReceive = true := by
  cases d with
  | idle | settling => rfl
  | _ => cases h

theorem receive_ne_settling {i : Input} (pause : i = .quiet ∨ i = .disconnected)
    (h : d.isListening = true) (f : EventFilter) (changed : List Path) :
    d.receive f i ≠ .settling changed := by
  cases d with
  | idle | settling => rcases pause with rfl | rfl <;> simp [receive]
  | _ => cases h

theorem owesRequest_of_isListening (h : d.isListening = true) : d.owesRequest = false := by
  cases d with
  | idle | settling => rfl
  | _ => cases h

end Debouncer

namespace WatchSystem

variable {f : EventFilter} {events : List WatchEvent} {s s' : WatchSystem} {a : Action}
  {actions : List Action}

/-- The system before its first step. -/
def start (events : List WatchEvent) : WatchSystem := { incoming := events }

/-! ## Events that are owed a pass -/

/-- An event that qualifies was received, and no pass has been started since. -/
def Owed (f : EventFilter) (actions : List Action) : Prop :=
  ∃ before e after, actions = before ++ .input (.event e) :: after ∧
    f.qualifies e = true ∧ .startPass ∉ after

theorem not_owed_nil : ¬ Owed f [] := by
  rintro ⟨before, e, after, same, -⟩
  simp at same

/-- What is owed was owed before and no pass was started, or it has just been received. -/
theorem owed_concat (h : Owed f (actions ++ [a])) :
    (Owed f actions ∧ a ≠ .startPass) ∨ ∃ e, a = .input (.event e) ∧ f.qualifies e = true := by
  obtain ⟨before, e, after, same, qualifies, unserved⟩ := h
  rcases List.eq_nil_or_concat after with rfl | ⟨after, last, rfl⟩
  · obtain ⟨-, same⟩ := List.append_inj' same rfl
    exact .inr ⟨e, List.singleton_inj.1 same, qualifies⟩
  · rw [List.concat_eq_append, ← List.cons_append, ← List.append_assoc] at same
    obtain ⟨init, last_eq⟩ := List.append_inj' same rfl
    obtain rfl := List.singleton_inj.1 last_eq
    simp only [List.concat_eq_append, List.mem_append, List.mem_singleton, not_or] at unserved
    exact .inl ⟨⟨before, e, after, init, qualifies, unserved.1⟩, Ne.symm unserved.2⟩

/-- Where no event is received, what is owed was owed before and no pass is started. -/
theorem owed_of_concat (h : Owed f (actions ++ [a])) (none : a.event? = none) :
    Owed f actions ∧ a ≠ .startPass := by
  rcases owed_concat h with owed | ⟨e, rfl, -⟩
  · exact owed
  · cases none

/-! ## What every step keeps -/

/-- An event is received in its turn. -/
theorem Step.incoming (step : Step f s a s') :
    s.incoming = a.event?.toList ++ s'.incoming := by
  cases step with
  | event e rest incoming listening => exact incoming
  | _ => rfl

theorem received_of_run (run : Run (Step f) (start events) actions s) :
    actions.filterMap Action.event? ++ s.incoming = events := by
  induction run with
  | start => rfl
  | @step actions s s' a _ last ih =>
    rw [← ih, last.incoming]
    cases h : a.event? <;> simp [h]

theorem Step.stopped (step : Step f s a s') : s'.stopped = true ↔ s.stopped = true ∨ a = .stop := by
  cases step with
  | look found slots running used => simp [running, Action.stop]
  | _ => simp [Action.stop]

theorem stopped_of_run (run : Run (Step f) (start events) actions s) :
    s.stopped = true ↔ .stop ∈ actions := by
  induction run with
  | start => simp [start]
  | step _ last ih => rw [last.stopped, ih, List.mem_append, List.mem_singleton, eq_comm]

/-- What holds of the debouncer and the slot after any steps: an event that is owed a pass is in a
burst or its pass is pending; the slot is closed behind the last event and the last request; and
when the worker is told to stop the slot is closed and nothing is pending. -/
structure Delivers (f : EventFilter) (actions : List Action) (s : WatchSystem) : Prop where
  owed : Owed f actions → s.debouncer.hasBurst = true ∨ s.slots.slot.pending = true
  ended : s.debouncer.mayReceive = false → s.incoming = []
  closed : s.slots.slot.closed = true ↔ s.debouncer = .done
  stopped : s.stopped = true → s.slots.slot = ⟨false, true⟩

theorem delivers_start (f : EventFilter) (events : List WatchEvent) :
    Delivers f [] (start events) where
  owed owed := absurd owed not_owed_nil
  ended closed := by cases closed
  closed := by simp [start]
  stopped stopped := by cases stopped

theorem Step.delivers (step : Step f s a s') (h : Delivers f actions s) :
    Delivers f (actions ++ [a]) s' := by
  cases step with
  | event e rest incoming listening =>
    have listening' := Debouncer.isListening_receive_event listening f e
    refine ⟨fun owed => ?_, fun ended => ?_, ?_, h.stopped⟩
    · rcases owed_concat owed with ⟨owed, -⟩ | ⟨e', same, qualifies⟩
      · refine (h.owed owed).imp_left fun burst => ?_
        exact Debouncer.hasBurst_receive_event listening (.inl burst)
      · obtain rfl : e = e' := by simpa using same
        exact .inl (Debouncer.hasBurst_receive_event listening (.inr qualifies))
    · rw [Debouncer.mayReceive_of_isListening listening'] at ended
      cases ended
    · rw [h.closed]
      grind [Debouncer.isListening]
  | quiet changed settling =>
    refine ⟨fun _ => .inl ?_, fun ended => ?_, ?_, h.stopped⟩
    · simp [settling, Debouncer.receive, Debouncer.hasBurst]
    · simp [settling, Debouncer.receive, Debouncer.mayReceive] at ended
    · simp [h.closed, settling, Debouncer.receive]
  | disconnected incoming listening =>
    refine ⟨fun owed => ?_, fun _ => incoming, ?_, h.stopped⟩
    · refine (h.owed (owed_of_concat owed rfl).1).imp_left fun burst => ?_
      exact Debouncer.hasBurst_receive_disconnected listening burst f
    · rw [h.closed]
      cases hd : s.debouncer with
      | idle | settling => simp [Debouncer.receive]
      | _ => simp [hd, Debouncer.isListening] at listening
  | request more isNew slots requesting used =>
    obtain ⟨-, slot⟩ := used.slot_request
    have opened : s.slots.slot.closed = false := by
      simpa [requesting] using h.closed
    refine ⟨fun _ => .inr (by rw [slot]; rfl), fun ended => ?_, ?_, fun stopped => ?_⟩
    · refine h.ended ?_
      cases more with
      | false => rw [requesting]; rfl
      | true =>
        simp [requesting, Debouncer.act, Debouncer.afterRequest, Debouncer.mayReceive] at ended
    · cases more <;>
        simp [requesting, slot, Slot.request, opened, Debouncer.act, Debouncer.afterRequest]
    · simp [h.stopped stopped] at opened
  | close slots closing used =>
    have slot := used.slot_close
    have opened : s.slots.slot.closed = false := by
      simpa [closing] using h.closed
    refine ⟨fun owed => .inr ?_, fun _ => h.ended (by rw [closing]; rfl), ?_, fun stopped => ?_⟩
    · have pending := h.owed (owed_of_concat owed rfl).1
      rw [closing] at pending
      simpa [slot, Slot.close, Debouncer.hasBurst] using pending
    · simp [closing, slot, Slot.close, Debouncer.act]
    · simp [h.stopped stopped] at opened
  | look found slots running used =>
    obtain ⟨rfl, slot⟩ := used.slot_look
    rw [Slot.poll_snd] at slot
    refine ⟨fun owed => ?_, h.ended, by rw [slot]; exact h.closed, fun stopped => ?_⟩
    · obtain ⟨owed, ne⟩ := owed_of_concat owed rfl
      have pending : s.slots.slot.pending = false := by
        simpa [Action.startPass, Slot.poll_eq_pass_iff] using ne
      exact (h.owed owed).imp_right fun found => by simp [pending] at found
    · have finished := Slot.poll_eq_finished_iff.1 (by simpa using stopped)
      rw [slot, finished.1]
  | stir slots used =>
    have slot := used.slot_stir
    refine ⟨fun owed => ?_, h.ended, by rw [slot]; exact h.closed, fun stopped => ?_⟩
    · rw [slot]
      exact h.owed (owed_of_concat owed rfl).1
    · rw [slot]
      exact h.stopped stopped

theorem delivers_of_run (run : Run (Step f) (start events) actions s) : Delivers f actions s := by
  induction run with
  | start => exact delivers_start f events
  | step _ last ih => exact last.delivers ih

/-! ## Passes and bursts -/

@[simp] theorem bursts_concat (actions : List Action) (a : Action) :
    bursts (actions ++ [a]) = (bursts actions).record a := by
  simp [bursts]

/-- The debouncer requests a pass. -/
def Action.isRequest : Action → Bool
  | .slot (.request _) => true
  | _ => false

@[simp] theorem Action.isRequest_input (i : Debouncer.Input) :
    (Action.input i).isRequest = false := rfl

/-- What holds of requests and bursts after any steps: each request was made for a burst with an
event that qualifies, and so will be one that is due; the burst that is not over has such an
event. -/
structure Counts (f : EventFilter) (actions : List Action) (s : WatchSystem) : Prop where
  requests : actions.countP (·.isRequest) + s.debouncer.owesRequest.toNat ≤
    (bursts actions).settled.countP (·.any f.qualifies)
  current : ∀ changed, s.debouncer = .settling changed →
    (bursts actions).current.any f.qualifies = true

/-- A pause ends a burst, and a request becomes due only if the burst qualified. -/
theorem Counts.pause (h : Counts f actions s) {i : Debouncer.Input}
    (pause : i = .quiet ∨ i = .disconnected) (listening : s.debouncer.isListening = true) :
    Counts f (actions ++ [.input i]) { s with debouncer := s.debouncer.receive f i } := by
  have requests := h.requests
  have ended : (bursts (actions ++ [.input i])).settled =
      (bursts actions).settled ++ [(bursts actions).current] := by
    rcases pause with rfl | rfl <;> simp [Bursts.record]
  refine ⟨?_, fun changed again => ?_⟩
  · rw [ended, List.countP_append, List.countP_append, List.countP_singleton]
    cases hd : s.debouncer with
    | idle =>
      have none : (Debouncer.idle.receive f i).owesRequest = false := by
        rcases pause with rfl | rfl <;> rfl
      simp [none]
      omega
    | settling changed =>
      have due : ((Debouncer.settling changed).receive f i).owesRequest = true := by
        rcases pause with rfl | rfl <;> rfl
      simp [due, h.current changed hd]
      omega
    | _ => simp [hd, Debouncer.isListening] at listening
  · exact absurd again (Debouncer.receive_ne_settling pause listening f changed)

/-- Without a pause and without an event the bursts stay as they are, and a request is made only
where one was due. -/
theorem Counts.use (h : Counts f actions s) {a : SlotSystem.Action} {d : Debouncer}
    (due : (Action.slot a).isRequest.toNat + d.owesRequest.toNat ≤ s.debouncer.owesRequest.toNat)
    (ended : ∀ changed, d = .settling changed → s.debouncer = .settling changed)
    (s' : WatchSystem) (same : s'.debouncer = d) : Counts f (actions ++ [.slot a]) s' := by
  have requests := h.requests
  refine ⟨?_, fun changed again => ?_⟩
  · rw [bursts_concat, List.countP_append, List.countP_singleton, same]
    simp only [Bursts.record]
    cases made : (Action.slot a).isRequest <;> simp [made] at due ⊢ <;> omega
  · rw [bursts_concat]
    exact h.current changed (ended changed (same ▸ again))

theorem Step.counts (step : Step f s a s') (h : Counts f actions s) :
    Counts f (actions ++ [a]) s' := by
  cases step with
  | event e rest incoming listening =>
    have requests := h.requests
    have listening' := Debouncer.isListening_receive_event listening f e
    refine ⟨?_, fun changed settling => ?_⟩
    · have none := Debouncer.owesRequest_of_isListening listening'
      simp [Bursts.record, none]
      omega
    · rw [bursts_concat]
      rcases Debouncer.qualifies_of_receive_event settling with ⟨before, same⟩ | qualifies
      · simp [Bursts.record, h.current before same]
      · simp [Bursts.record, qualifies]
  | quiet changed settling => exact h.pause (.inl rfl) (by rw [settling]; rfl)
  | disconnected incoming listening => exact h.pause (.inr rfl) listening
  | request more isNew slots requesting used =>
    refine h.use ?_ ?_ _ rfl
    · cases more <;> simp [requesting, Debouncer.act, Debouncer.afterRequest,
        Debouncer.owesRequest, Action.isRequest]
    · cases more <;> simp [requesting, Debouncer.act, Debouncer.afterRequest]
  | close slots closing used =>
    refine h.use ?_ ?_ _ rfl
    · simp [closing, Debouncer.act, Debouncer.owesRequest, Action.isRequest]
    · simp [closing, Debouncer.act]
  | look found slots running used =>
    exact h.use (d := s.debouncer) (by simp [Action.isRequest]) (fun _ => id) _ rfl
  | stir slots used =>
    exact h.use (d := s.debouncer) (by simp [Action.isRequest]) (fun _ => id) _ rfl

theorem counts_of_run (run : Run (Step f) (start events) actions s) : Counts f actions s := by
  induction run with
  | start => exact ⟨Nat.le_refl 0, fun _ settling => by cases settling⟩
  | step _ last ih => exact last.counts ih

/-- The threads at the slot are those of the system. -/
theorem slots_of_run (run : Run (Step f) (start events) actions s) :
    Run SlotSystem.Step {} (actions.filterMap Action.slot?) s.slots := by
  induction run with
  | start => exact .start
  | step _ last ih =>
    rw [List.filterMap_append]
    cases last with
    | event | quiet | disconnected => exact (List.append_nil _).symm ▸ ih
    | request _ _ _ _ used => exact ih.step used
    | close _ _ used => exact ih.step used
    | look _ _ _ used => exact ih.step used
    | stir _ used => exact ih.step used

/-- Every pass that is started was requested anew. -/
theorem count_startPass_le (run : Run (Step f) (start events) actions s) :
    actions.count .startPass ≤ actions.countP (·.isRequest) := by
  have balance := SlotSystem.balance_of_run (slots_of_run run)
  have taken : actions.count .startPass ≤
      (actions.filterMap Action.slot?).countP (·.takesPass) := by
    rw [List.countP_filterMap]
    refine List.countP_mono_left fun a _ starts => ?_
    obtain rfl : a = .startPass := by simpa using starts
    rfl
  have requested : (actions.filterMap Action.slot?).count (.request true) ≤
      actions.countP (·.isRequest) := by
    rw [List.count, List.countP_filterMap]
    refine List.countP_mono_left fun a _ new => ?_
    cases a with
    | input i => cases new
    | slot b =>
      obtain rfl : b = .request true := by simpa [Action.slot?] using new
      rfl
  omega

/-- The events of the bursts are those that were received. -/
theorem flatten_bursts (actions : List Action) :
    (bursts actions).settled.flatten ++ (bursts actions).current =
      actions.filterMap Action.event? := by
  induction actions using List.reverseRecOn with
  | nil => rfl
  | append_singleton actions a ih =>
    rw [bursts_concat, List.filterMap_append, ← ih]
    rcases a with (e | _ | _) | b <;> simp [Bursts.record, Action.event?]

/-! ## The end of a run -/

/-- What holds of requests and the closing after any steps. -/
structure ClosesLast (actions : List Action) (s : WatchSystem) : Prop where
  closed : .slot .close ∈ actions → s.debouncer = .done
  order : actions.Pairwise fun a b => a = .slot .close → b.isRequest = false

theorem Step.closesLast (step : Step f s a s') (h : ClosesLast actions s) :
    ClosesLast (actions ++ [a]) s' := by
  have order (ha : .slot .close ∈ actions → a.isRequest = false) :
      (actions ++ [a]).Pairwise fun a b => a = .slot .close → b.isRequest = false := by
    refine List.pairwise_append.2 ⟨h.order, List.pairwise_singleton .., ?_⟩
    rintro b hb c hc rfl
    exact List.mem_singleton.1 hc ▸ ha hb
  have before (ne : a ≠ .slot .close) (mem : .slot .close ∈ actions ++ [a]) :
      s.debouncer = .done := by
    refine h.closed ?_
    simpa [ne.symm] using mem
  cases step with
  | event e rest incoming listening =>
    refine ⟨fun mem => ?_, order fun _ => rfl⟩
    simp [before (by simp) mem, Debouncer.isListening] at listening
  | quiet changed settling =>
    refine ⟨fun mem => ?_, order fun _ => rfl⟩
    simp [before (by simp) mem] at settling
  | disconnected incoming listening =>
    refine ⟨fun mem => ?_, order fun _ => rfl⟩
    simp [before (by simp) mem, Debouncer.isListening] at listening
  | request more isNew slots requesting used =>
    refine ⟨fun mem => ?_, order fun closed => ?_⟩
    · simp [before (by simp) mem] at requesting
    · simp [h.closed closed] at requesting
  | close slots closing used =>
    exact ⟨fun _ => by simp [closing, Debouncer.act], order fun _ => rfl⟩
  | look found slots running used => exact ⟨before (by simp), order fun _ => rfl⟩
  | stir slots used => exact ⟨before (by simp), order fun _ => rfl⟩

theorem closesLast_of_run (run : Run (Step f) (start events) actions s) : ClosesLast actions s := by
  induction run with
  | start => exact ⟨fun mem => absurd mem List.not_mem_nil, .nil⟩
  | step _ last ih => exact last.closesLast ih

/-- Before the worker is told to stop, the debouncer or the worker can do something without an
unprompted wake-up: a worker that sleeps is never alone with a pass or with a closed slot. -/
theorem exists_step (run : Run (Step f) (start events) actions s) (running : .stop ∉ actions) :
    ∃ a s', Step f s a s' ∧ a ≠ .slot (.stir worker) := by
  have delivers := delivers_of_run run
  have stopped : s.stopped = false := by
    simpa using mt (stopped_of_run run).1 running
  cases hd : s.debouncer with
  | idle | settling changed =>
    have listening : s.debouncer.isListening = true := by rw [hd]; rfl
    cases incoming : s.incoming with
    | nil => exact ⟨_, _, .disconnected s incoming listening, by simp⟩
    | cons e rest => exact ⟨_, _, .event s e rest incoming listening, by simp⟩
  | requesting more =>
    cases asleep : s.slots.sleeping with
    | nil => exact ⟨_, _, .request s more _ _ hd (.request s.slots asleep), by simp⟩
    | cons t ts =>
      have mem : t ∈ s.slots.sleeping := by simp [asleep]
      exact ⟨_, _, .request s more _ _ hd (.requestWaking s.slots t mem), by simp⟩
  | closing => exact ⟨_, _, .close s _ hd (.close s.slots), by simp⟩
  | done =>
    have asleep := (SlotSystem.keepsAwake_of_run (slots_of_run run)).drained (delivers.closed.2 hd)
    by_cases woken : worker ∈ s.slots.woken
    · exact ⟨_, _, .look s _ _ stopped (.again s.slots worker woken), by simp⟩
    · exact ⟨_, _, .look s _ _ stopped (.enter s.slots worker (by simp [asleep]) woken), by simp⟩

/-- However events come in, quiet times end, and the debouncer and the worker take turns: when the
worker is told to stop, all events have been received and each one that qualifies has a pass behind
it that was started after it was received; no more passes are started than bursts with an event
that qualifies are over, and none if no event qualifies; and no request is made behind the
closing of the slot. -/
theorem no_change_lost (run : Run (Step f) (start events) actions s) :
    (.stop ∈ actions → actions.filterMap Action.event? = events ∧
      ∀ before e after, actions = before ++ .input (.event e) :: after →
        f.qualifies e = true → .startPass ∈ after) ∧
      actions.count .startPass ≤ (bursts actions).settled.countP (·.any f.qualifies) ∧
      ((∀ e ∈ events, f.qualifies e = false) → actions.count .startPass = 0) ∧
      actions.Pairwise fun a b => a = .slot .close → b.isRequest = false := by
  have delivers := delivers_of_run run
  have received := received_of_run run
  have few : actions.count .startPass ≤
      (bursts actions).settled.countP (·.any f.qualifies) := by
    have started := count_startPass_le run
    have requested := (counts_of_run run).requests
    omega
  refine ⟨fun stop => ?_, few, fun none => ?_, (closesLast_of_run run).order⟩
  · have slot := delivers.stopped ((stopped_of_run run).2 stop)
    have done : s.debouncer = .done := delivers.closed.1 (by rw [slot])
    have ended : s.incoming = [] := delivers.ended (by rw [done]; rfl)
    refine ⟨by rwa [ended, List.append_nil] at received, ?_⟩
    intro before e after split qualifies
    by_contra unserved
    have owed := delivers.owed ⟨before, e, after, split, qualifies, unserved⟩
    simp [done, slot, Debouncer.hasBurst] at owed
  · have settled : (bursts actions).settled.countP (·.any f.qualifies) = 0 := by
      refine List.countP_eq_zero.2 fun burst hburst asks => ?_
      obtain ⟨e, he, qualifies⟩ := List.any_eq_true.1 asks
      have mem : e ∈ actions.filterMap Action.event? := by
        rw [← flatten_bursts]
        exact List.mem_append_left _ (List.mem_flatten.2 ⟨burst, hburst, he⟩)
      have known : e ∈ events := received ▸ List.mem_append_left _ mem
      simp [none e known] at qualifies
    omega

theorem Step.event_of_eq {e : WatchEvent} {rest : List WatchEvent} {d : Debouncer}
    (incoming : s.incoming = e :: rest) (listening : s.debouncer.isListening = true)
    (received : s.debouncer.receive f (.event e) = d) :
    Step f s (.input (.event e)) { s with incoming := rest, debouncer := d } :=
  received ▸ .event s e rest incoming listening

/-- Two bursts with noise between them share a pass: the second request is made, at the end of all
events, before the woken worker has looked. -/
theorem no_change_lost_coalesced :
    let f : EventFilter :=
      ⟨⟨⟨"/app/src"⟩, ["ts"], [.part "node_modules"]⟩, ⟨"/app/prisma/schema.prisma"⟩⟩
    let saved : WatchEvent := .event (.modify .data) [⟨"/app/src/member.ts"⟩]
    let noise : WatchEvent := .event .create [⟨"/app/src/node_modules/pkg"⟩]
    let moved : WatchEvent := .event (.modify .name) [⟨"/app/src/models"⟩]
    let actions : List Action := [.slot (.look worker .nothing), .input (.event saved),
      .input .quiet, .slot (.request true), .input (.event noise), .input (.event moved),
      .input .disconnected, .slot (.request false), .startPass, .slot .close, .stop]
    ∃ s, Run (Step f) (start [saved, noise, moved]) actions s ∧
      actions.filterMap Action.event? = [saved, noise, moved] ∧
      (∀ before e after, actions = before ++ .input (.event e) :: after →
        f.qualifies e = true → .startPass ∈ after) ∧
      (bursts actions).settled.countP (·.any f.qualifies) = 2 ∧ actions.count .startPass = 1 := by
  intro f saved noise moved actions
  have opens : Debouncer.idle.receive f (.event saved) = .settling [⟨"/app/src/member.ts"⟩] := by
    decide +kernel
  have ignores : Debouncer.idle.receive f (.event noise) = .idle := by decide +kernel
  have opensAgain : Debouncer.idle.receive f (.event moved) = .settling [⟨"/app/src/models"⟩] := by
    decide +kernel
  have empty : Run (Step f) (start [saved, noise, moved]) [] _ := .start
  have asleep := empty.step (.look _ _ _ rfl (.enter {} worker (by decide) (by decide)))
  have first := asleep.step (.event_of_eq rfl rfl opens)
  have requested := (first.step (.quiet _ _ rfl)).step (.request _ _ _ _ rfl
    (.requestWaking ⟨{}, [worker], []⟩ worker (by decide)))
  have second := (requested.step (.event_of_eq rfl rfl ignores)).step
    (.event_of_eq rfl rfl opensAgain)
  have ended := (second.step (.disconnected _ rfl rfl)).step (.request _ _ _ _ rfl
    (.request ⟨⟨true, false⟩, [], [worker]⟩ rfl))
  have served := ended.step (.look _ _ _ rfl
    (.again ⟨⟨true, false⟩, [], [worker]⟩ worker (by decide)))
  have run : Run (Step f) (start [saved, noise, moved]) actions _ :=
    (served.step (.close _ _ rfl (.close _))).step
      (.look _ _ _ rfl (.enter ⟨⟨false, true⟩, [], []⟩ worker (by decide) (by decide)))
  have stop : Action.stop ∈ actions := by decide +kernel
  obtain ⟨atEnd, -, -, -⟩ := no_change_lost run
  exact ⟨_, run, (atEnd stop).1, (atEnd stop).2, by decide +kernel, by decide +kernel⟩

end WatchSystem

end ModelSchema
