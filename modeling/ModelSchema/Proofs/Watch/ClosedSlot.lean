import ModelSchema.Proofs.Watch.Delivery

/-!
# Closed slots

A closed slot takes requests as an open one does: a request behind the closing makes a pass
pending, and the next thread that looks is handed it. So how many passes are handed out behind a
closing, and whether a thread is handed one after another was told that nothing will come, is
decided by the requests behind the closing. The debouncer makes none.

## Main definitions

* `SlotSystem.StaysDrained` — one pass at most, and none once a thread was told to go away.

## Main statements

* `Run.exists_of_append` — a run goes through a state after each part of its actions.
* `SlotSystem.takesNoPass_iff` — the looks at a closed slot that find nothing.
* `SlotSystem.staysDrained_iff` — which requests a slot that stays drained has behind its closing.
* `SlotSystem.handsOut_closed` — a closed slot that does not stay drained.
* `WatchSystem.staysDrained_of_run` — the slot of the debouncer and the worker stays drained.
-/

namespace ModelSchema

/-! ## Parts of a run -/

namespace Run

variable {σ α : Type} {step : σ → α → σ → Prop} {first last : σ} {a : α} {actions later : List α}

theorem concat_iff :
    Run step first (actions ++ [a]) last ↔
      ∃ s, Run step first actions s ∧ step s a last := by
  constructor
  · intro h
    generalize hall : actions ++ [a] = all at h
    cases h with
    | start => simp at hall
    | step run step =>
      obtain ⟨rfl, same⟩ := List.append_inj' hall rfl
      obtain rfl := List.singleton_inj.1 same
      exact ⟨_, run, step⟩
  · rintro ⟨s, run, step⟩
    exact run.step step

/-- A run goes through a state after each part of its actions. -/
theorem exists_of_append (h : Run step first (actions ++ later) last) :
    ∃ s, Run step first actions s ∧ Run step s later last := by
  induction later using List.reverseRecOn generalizing last with
  | nil => exact ⟨last, by simpa using h, .start⟩
  | append_singleton later a ih =>
    rw [← List.append_assoc, concat_iff] at h
    obtain ⟨t, run, step⟩ := h
    obtain ⟨s, front, back⟩ := ih run
    exact ⟨s, front, back.step step⟩

/-- A run goes through a state before and after each of its actions. -/
theorem exists_of_append_cons (h : Run step first (actions ++ a :: later) last) :
    ∃ s s', Run step first actions s ∧ step s a s' ∧ Run step s' later last := by
  rw [← List.singleton_append, ← List.append_assoc] at h
  obtain ⟨s', front, back⟩ := exists_of_append h
  obtain ⟨s, front, step⟩ := concat_iff.1 front
  exact ⟨s, s', front, step, back⟩

end Run

namespace SlotSystem

variable {s s' : SlotSystem} {a : Action} {actions behind : List Action} {t : ThreadId}
  {found : PollResult}

/-! ## Looks at a closed slot -/

theorem Step.closed (step : Step s a s') (h : s.slot.closed = true) : s'.slot.closed = true := by
  cases a with
  | request isNew => rw [step.slot_request.2]; exact h
  | close => rw [step.slot_close]; rfl
  | look t found => rw [step.slot_look.2, Slot.poll_snd]; exact h
  | stir t => rw [step.slot_stir]; exact h

theorem closed_of_run (run : Run Step s actions s') (h : s.slot.closed = true) :
    s'.slot.closed = true := by
  induction run with
  | start => exact h
  | step _ last ih => exact last.closed ih

/-- No thread goes to sleep at a closed slot. -/
theorem ne_nothing_of_mem (run : Run Step s actions s') (h : s.slot.closed = true)
    (mem : .look t found ∈ actions) : found ≠ .nothing := by
  obtain ⟨before, later, rfl⟩ := List.append_of_mem mem
  obtain ⟨u, u', front, look, -⟩ := run.exists_of_append_cons
  rintro rfl
  have opened := (Slot.poll_eq_nothing_iff.1 look.slot_look.1.symm).1
  rw [closed_of_run front h] at opened
  cases opened

/-- A thread that goes away without a pass leaves a closed slot with nothing pending. -/
theorem Step.slot_of_finished (step : Step s (.look t .finished) s') :
    s'.slot = ⟨false, true⟩ := by
  obtain ⟨finished, slot⟩ := step.slot_look
  rw [slot, Slot.poll_snd, (Slot.poll_eq_finished_iff.1 finished.symm).1]

/-- At a closed slot a thread goes away without a pass unless it is handed one. -/
theorem takesNoPass_iff (run : Run Step s actions s') (h : s.slot.closed = true) :
    (∀ t found, .look t found ∈ actions → found = .finished) ↔
      actions.countP (·.takesPass) = 0 := by
  rw [List.countP_eq_zero]
  constructor
  · intro finished a ha takes
    match a, takes with
    | .look t .pass, _ => cases finished t .pass ha
  · intro none t found ha
    cases found with
    | pass => exact absurd rfl (none _ ha)
    | finished => rfl
    | nothing => exact absurd rfl (ne_nothing_of_mem run h ha)

/-- Behind a thread that went away without a pass, all threads do so if and only if no new request
has been served; those that have been are the passes handed out. -/
theorem balance_of_finished (run : Run Step s (actions ++ .look t .finished :: behind) s') :
    behind.count (.request true) = behind.countP (·.takesPass) + s'.slot.pending.toNat ∧
      ((∀ u found, .look u found ∈ behind → found = .finished) ↔
        behind.countP (·.takesPass) = 0) := by
  obtain ⟨u, u', -, look, back⟩ := run.exists_of_append_cons
  have slot := look.slot_of_finished
  refine ⟨?_, takesNoPass_iff back (by rw [slot])⟩
  simpa [slot] using balance_from back

/-! ## Slots that stay drained -/

/-- Of the actions behind a closing, at most one look finds a pass; and once a thread has gone away
without one, so does every thread that looks later. -/
structure StaysDrained (behind : List Action) : Prop where
  once : behind.countP (·.takesPass) ≤ 1
  finished : ∀ before t later, behind = before ++ .look t .finished :: later →
    ∀ u found, .look u found ∈ later → found = .finished

/-- The passes handed out behind a closing. -/
theorem balance_of_close (run : Run Step s.close behind s') :
    s.slot.pending.toNat + behind.count (.request true) =
      behind.countP (·.takesPass) + s'.slot.pending.toNat := by
  have pending : s.close.slot.pending = s.slot.pending := rfl
  rw [← pending]
  exact balance_from run

/-- Without requests behind its closing a slot stays drained. -/
theorem staysDrained_of_no_request (run : Run Step s.close behind s')
    (none : ∀ isNew, .request isNew ∉ behind) : StaysDrained behind := by
  have balance := balance_of_close run
  rw [List.count_eq_zero.2 (none true)] at balance
  constructor
  · have atMost := Bool.toNat_le s.slot.pending
    omega
  · rintro before t later rfl
    obtain ⟨served, finished⟩ := balance_of_finished run
    have unasked : .request true ∉ later := fun mem => none true (by simp [mem])
    rw [List.count_eq_zero.2 unasked] at served
    exact finished.2 (by omega)

/-- A closed slot stays drained if and only if all but one at most of the pass pending at the
closing and the passes requested anew behind it are still pending, and so is every one that is
requested behind a thread that went away without a pass. -/
theorem staysDrained_iff (run : Run Step s.close behind s') :
    StaysDrained behind ↔
      s.slot.pending.toNat + behind.count (.request true) ≤ 1 + s'.slot.pending.toNat ∧
        ∀ before t later, behind = before ++ .look t .finished :: later →
          later.count (.request true) = s'.slot.pending.toNat := by
  have balance := balance_of_close run
  have finished : ∀ before t later, behind = before ++ .look t .finished :: later →
      ((∀ u found, .look u found ∈ later → found = .finished) ↔
        later.count (.request true) = s'.slot.pending.toNat) := by
    rintro before t later rfl
    obtain ⟨served, finished⟩ := balance_of_finished run
    rw [finished]
    omega
  constructor
  · intro h
    refine ⟨?_, fun before t later same => ?_⟩
    · have once := h.once
      omega
    · exact (finished before t later same).1 (h.finished before t later same)
  · rintro ⟨few, unserved⟩
    refine ⟨by omega, fun before t later same => ?_⟩
    exact (finished before t later same).2 (unserved before t later same)

/-- The pass pending at the closing is taken, and the one requested behind it never is. -/
theorem staysDrained_unserved :
    let behind : List Action := [.look 0 .pass, .look 1 .finished, .request true, .request false]
    Run Step (⟨⟨true, false⟩, [], []⟩ : SlotSystem).close behind ⟨⟨true, true⟩, [], []⟩ ∧
      StaysDrained behind := by
  intro behind
  have run : Run Step (⟨⟨true, false⟩, [], []⟩ : SlotSystem).close behind ⟨⟨true, true⟩, [], []⟩ :=
    (((Run.start.step (.enter ⟨⟨true, true⟩, [], []⟩ 0 (by decide) (by decide))).step
      (.enter ⟨⟨false, true⟩, [], []⟩ 1 (by decide) (by decide))).step
      (.request ⟨⟨false, true⟩, [], []⟩ rfl)).step (.request ⟨⟨true, true⟩, [], []⟩ rfl)
  refine ⟨run, (staysDrained_iff run).2 ⟨by decide, ?_⟩⟩
  rintro (_ | ⟨_, _ | ⟨_, before⟩⟩) t later same
  · simp [behind] at same
  · obtain rfl : later = [.request true, .request false] := by
      simp only [behind, List.cons_append, List.nil_append, List.cons.injEq] at same
      exact same.2.2.symm
    rfl
  · have mem : .look t .finished ∈ [Action.request true, Action.request false] := by
      simp only [behind, List.cons_append, List.cons.injEq] at same
      simp [same.2.2]
    simp at mem

/-- Behind the closing of a fresh slot one thread goes away without a pass, and yet two later ones
are handed passes. -/
theorem handsOut_closed :
    let behind : List Action := [.look 0 .finished, .request true, .look 0 .pass, .request true,
      .look 0 .pass]
    Run Step {} (.close :: behind) ⟨⟨false, true⟩, [], []⟩ ∧
      behind.countP (·.takesPass) = 2 ∧ ¬ StaysDrained behind := by
  intro behind
  refine ⟨?_, by decide, fun h => absurd h.once (by decide)⟩
  exact (((((Run.start.step (.close {})).step
    (.enter ⟨⟨false, true⟩, [], []⟩ 0 (by decide) (by decide))).step
    (.request ⟨⟨false, true⟩, [], []⟩ rfl)).step
    (.enter ⟨⟨true, true⟩, [], []⟩ 0 (by decide) (by decide))).step
    (.request ⟨⟨false, true⟩, [], []⟩ rfl)).step
    (.enter ⟨⟨true, true⟩, [], []⟩ 0 (by decide) (by decide))

end SlotSystem

namespace WatchSystem

/-- The debouncer makes no request behind its closing, so the slot that it shares with the worker
stays drained. -/
theorem staysDrained_of_run {f : EventFilter} {events : List WatchEvent} {s : WatchSystem}
    {actions behind : List Action}
    (run : Run (Step f) (start events) (actions ++ .slot .close :: behind) s) :
    SlotSystem.StaysDrained (behind.filterMap Action.slot?) := by
  have slots := slots_of_run run
  rw [List.filterMap_append, List.filterMap_cons_some (by rfl)] at slots
  obtain ⟨t, t', -, closing, back⟩ := slots.exists_of_append_cons
  obtain rfl : t' = t.close := by
    cases closing
    rfl
  refine SlotSystem.staysDrained_of_no_request back fun isNew mem => ?_
  obtain ⟨a, ha, same⟩ := List.mem_filterMap.1 mem
  have order := (List.pairwise_append.1 (closesLast_of_run run).order).2.1
  have unasked := (List.pairwise_cons.1 order).1 a ha rfl
  cases a with
  | input i => cases same
  | slot a =>
    obtain rfl := Option.some.inj same
    cases unasked

end WatchSystem

end ModelSchema
