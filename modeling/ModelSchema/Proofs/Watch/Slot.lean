import Mathlib.Data.List.Nodup
import ModelSchema.Watch.Slot

/-!
# Threads that share a slot

A request that is new makes a pass pending, and a look that finds a pass takes it, so both are
counted against each other. A thread sleeps only while nothing is pending or while another one that
was woken has yet to look, whichever thread a request wakes and whichever looks first.

## Main definitions

* `SlotSystem.Action.takesPass` — the looks that find a pass.
* `SlotSystem.KeepsAwake` — what holds of the threads after any steps.

## Main statements

* `SlotSystem.Step.balance`, `SlotSystem.balance_from`, `SlotSystem.balance_of_run` — passes and
  requests.
* `SlotSystem.Step.keepsAwake`, `SlotSystem.keepsAwake_of_run` — no wake-up is lost.
* `SlotSystem.accounting` — both, with what a thread finds that goes away without a pass.
-/

namespace ModelSchema

namespace Slot

variable {s : Slot}

theorem poll_eq_pass_iff : s.poll.1 = .pass ↔ s.pending = true := by
  unfold poll
  grind

theorem poll_eq_finished_iff : s.poll.1 = .finished ↔ s.closed = true ∧ s.pending = false := by
  unfold poll
  grind

theorem poll_eq_nothing_iff : s.poll.1 = .nothing ↔ s.closed = false ∧ s.pending = false := by
  unfold poll
  grind

/-- A look leaves nothing pending and changes nothing else. -/
theorem poll_snd (s : Slot) : s.poll.2 = ⟨false, s.closed⟩ := by
  obtain ⟨pending, closed⟩ := s
  cases pending <;> cases closed <;> rfl

end Slot

namespace SlotSystem

variable {s s' : SlotSystem} {a : Action} {actions : List Action} {t : ThreadId}

/-! ## What a step does to the slot -/

@[simp] theorem slot_wake (s : SlotSystem) (t : ThreadId) : (s.wake t).slot = s.slot := rfl

@[simp] theorem slot_look (s : SlotSystem) (t : ThreadId) : (s.look t).slot = s.slot.poll.2 := by
  unfold look
  split <;> simp_all

theorem Step.slot_request {isNew : Bool} (h : Step s (.request isNew) s') :
    isNew = !s.slot.pending ∧ s'.slot = s.slot.request.2 := by
  cases h <;> exact ⟨rfl, rfl⟩

theorem Step.slot_close (h : Step s .close s') : s'.slot = s.slot.close := by
  cases h
  rfl

theorem Step.slot_look {found : PollResult} (h : Step s (.look t found) s') :
    found = s.slot.poll.1 ∧ s'.slot = s.slot.poll.2 := by
  cases h <;> simp

theorem Step.slot_stir (h : Step s (.stir t) s') : s'.slot = s.slot := by
  cases h
  rfl

/-! ## Passes and requests -/

/-- The action is a look that finds a pass. -/
def Action.takesPass : Action → Bool
  | .look _ .pass => true
  | _ => false

/-- A step that takes a pass leaves one less pending, a new request one more, and every other step
as many as there were. -/
theorem Step.balance (h : Step s a s') :
    (if a = .request true then 1 else 0) + s.slot.pending.toNat =
      (if a.takesPass then 1 else 0) + s'.slot.pending.toNat := by
  cases a with
  | request isNew =>
    obtain ⟨rfl, slot⟩ := h.slot_request
    cases pending : s.slot.pending <;> simp [slot, Slot.request, Action.takesPass, pending]
  | close => simp [h.slot_close, Slot.close, Action.takesPass]
  | look t found =>
    obtain ⟨rfl, slot⟩ := h.slot_look
    rw [slot, Slot.poll_snd]
    cases found : s.slot.poll.1 with
    | pass => simp [Slot.poll_eq_pass_iff.1 found, Action.takesPass]
    | finished => simp [(Slot.poll_eq_finished_iff.1 found).2, Action.takesPass]
    | nothing => simp [(Slot.poll_eq_nothing_iff.1 found).2, Action.takesPass]
  | stir t => simp [h.slot_stir, Action.takesPass]

/-- New requests come to the pass that is pending first, and passes are taken from both. -/
theorem balance_from {first : SlotSystem} (h : Run Step first actions s) :
    first.slot.pending.toNat + actions.count (.request true) =
      actions.countP (·.takesPass) + s.slot.pending.toNat := by
  induction h with
  | start => simp
  | step _ last ih =>
    have step := last.balance
    rw [List.count_append, List.countP_append, List.count_singleton, List.countP_singleton]
    simp only [beq_iff_eq]
    omega

theorem balance_of_run (h : Run Step {} actions s) :
    actions.count (.request true) = actions.countP (·.takesPass) + s.slot.pending.toNat := by
  simpa using balance_from h

/-! ## Sleeping and woken threads -/

/-- No thread is in two places; if a pass is pending while some thread sleeps, then some thread has
been woken and not looked again; and no thread sleeps at a closed slot. -/
structure KeepsAwake (s : SlotSystem) : Prop where
  nodup : (s.sleeping ++ s.woken).Nodup
  awake : s.slot.pending = true → s.sleeping ≠ [] → s.woken ≠ []
  drained : s.slot.closed = true → s.sleeping = []

/-- A thread that is woken leaves the sleeping ones. -/
theorem perm_wake (h : t ∈ s.sleeping) :
    ((s.wake t).sleeping ++ (s.wake t).woken).Perm (s.sleeping ++ s.woken) := by
  refine List.perm_middle.trans ?_
  rw [← List.cons_append]
  exact (List.perm_cons_erase h).symm.append_right _

/-- A thread that has just been woken stands for every other one that sleeps. -/
theorem keepsAwake_wake (nodup : (s.sleeping ++ s.woken).Nodup)
    (drained : s.slot.closed = true → s.sleeping = []) (ht : t ∈ s.sleeping) :
    (s.wake t).KeepsAwake where
  nodup := (perm_wake ht).nodup_iff.2 nodup
  awake _ _ := List.cons_ne_nil _ _
  drained closed := by
    rw [drained closed] at ht
    cases ht

/-- A thread that sleeps in no place looks. Nothing is pending behind its look, so it matters only
that it does not fall asleep at a closed slot. -/
theorem keepsAwake_look (nodup : (t :: (s.sleeping ++ s.woken)).Nodup)
    (drained : s.slot.closed = true → s.sleeping = []) : (s.look t).KeepsAwake := by
  have pending : (s.look t).slot.pending = false := by rw [slot_look, Slot.poll_snd]
  have closed : (s.look t).slot.closed = s.slot.closed := by rw [slot_look, Slot.poll_snd]
  refine ⟨?_, fun found => ?_, fun isClosed => ?_⟩
  · unfold look
    split
    · exact nodup
    · exact (List.nodup_cons.1 nodup).2
  · rw [pending] at found
    cases found
  · rw [closed] at isClosed
    unfold look
    split
    · rename_i found
      have nothing := Slot.poll_eq_nothing_iff.1 (congrArg Prod.fst found)
      rw [isClosed] at nothing
      exact absurd nothing.1 (by decide)
    · exact drained isClosed

theorem Step.keepsAwake (step : Step s a s') (h : s.KeepsAwake) : s'.KeepsAwake := by
  cases step with
  | request asleep =>
    exact ⟨h.nodup, fun _ some => absurd asleep some, fun _ => asleep⟩
  | requestWaking t ht => exact keepsAwake_wake (s := s.request) h.nodup h.drained ht
  | close => exact ⟨h.nodup, fun _ some => absurd rfl some, fun _ => rfl⟩
  | enter t asleep woken =>
    refine keepsAwake_look (List.nodup_cons.2 ⟨?_, h.nodup⟩) h.drained
    simp [asleep, woken]
  | again t ht =>
    refine keepsAwake_look ?_ h.drained
    have perm : (t :: (s.sleeping ++ s.woken.erase t)).Perm (s.sleeping ++ s.woken) :=
      List.perm_middle.symm.trans ((List.perm_cons_erase ht).symm.append_left _)
    exact perm.nodup_iff.2 h.nodup
  | stir t ht => exact keepsAwake_wake h.nodup h.drained ht

theorem keepsAwake_of_run (h : Run Step {} actions s) : s.KeepsAwake := by
  induction h with
  | start => exact ⟨.nil, fun _ some => absurd rfl some, fun _ => rfl⟩
  | step _ last ih => exact last.keepsAwake ih

/-! ## The accounts of a slot -/

/-- However threads request, close and wait: new requests are the passes handed out and the one
that is pending; a thread goes away without a pass only where the slot is closed and nothing is
pending; if a pass is pending while a thread sleeps, then another one has been woken and has yet to
look; and no thread sleeps at a closed slot. -/
theorem accounting (run : Run Step {} actions s) :
    actions.count (.request true) =
        actions.countP (·.takesPass) + (if s.slot.pending then 1 else 0) ∧
      (∀ t s', Step s (.look t .finished) s' → s.slot.closed = true ∧ s.slot.pending = false) ∧
      (s.slot.pending = true → ∀ t ∈ s.sleeping, ∃ u ∈ s.woken, u ≠ t) ∧
      (s.slot.closed = true → s.sleeping = []) := by
  have threads := keepsAwake_of_run run
  refine ⟨?_, fun t s' look => ?_, fun pending t ht => ?_, threads.drained⟩
  · rw [balance_of_run run]
    cases s.slot.pending <;> rfl
  · exact Slot.poll_eq_finished_iff.1 look.slot_look.1.symm
  · obtain ⟨u, hu⟩ := List.exists_mem_of_ne_nil _
      (threads.awake pending (List.ne_nil_of_mem ht))
    refine ⟨u, hu, ?_⟩
    rintro rfl
    exact (List.nodup_append.1 threads.nodup).2.2 u ht u hu rfl

/-- A newcomer takes the pass for which another thread was woken; the second request wakes one more
thread, and the third one keeps sleeping. -/
theorem accounting_stolen_pass :
    let actions : List Action := [.look 0 .nothing, .look 1 .nothing, .look 2 .nothing,
      .request true, .look 3 .pass, .request true]
    let s : SlotSystem := ⟨⟨true, false⟩, [0], [2, 1]⟩
    Run Step {} actions s ∧
      actions.count (.request true) = actions.countP (·.takesPass) + 1 ∧ ∃ u ∈ s.woken, u ≠ 0 := by
  intro actions s
  have first : Run Step {} [] {} := .start
  have run : Run Step {} actions s :=
    (((((first.step (.enter {} 0 (by decide) (by decide))).step
      (.enter ⟨{}, [0], []⟩ 1 (by decide) (by decide))).step
      (.enter ⟨{}, [1, 0], []⟩ 2 (by decide) (by decide))).step
      (.requestWaking ⟨{}, [2, 1, 0], []⟩ 1 (by decide))).step
      (.enter ⟨⟨true, false⟩, [2, 0], [1]⟩ 3 (by decide) (by decide))).step
      (.requestWaking ⟨{}, [2, 0], [1]⟩ 2 (by decide))
  obtain ⟨balance, -, awake, -⟩ := accounting run
  exact ⟨run, balance, awake rfl 0 (by decide)⟩

end SlotSystem

end ModelSchema
