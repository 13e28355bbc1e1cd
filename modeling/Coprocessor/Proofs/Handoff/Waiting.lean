import Coprocessor.Proofs.Handoff.Schedule

/-!
# Waits do not last longer than their time

A result that the worker delivers while the control thread waits is there by the deadline : the
step that brings it about begins by then, and delivering it takes no time
(`Station.due_workUntil_le`). So a job takes the control thread the time of the wait and the
grace period at most, however long the job goes on (`Station.clock_run_le`).

Until some time the worker acts as often as it can : a step takes a nanosecond at least, so it
comes to that time before its turns are over (`Station.At.lt_due_of_turns`).
-/

namespace Coprocessor.Handoff.Station

variable {σ τ : Type} {s s' : Station σ τ}

/-! ## The worker -/

/-- What the worker leaves alone : the time of the control thread, the grace period, and its own
time when it delivers a result. -/
structure Keeps (s s' : Station σ τ) : Prop where
  /-- The control thread has the same time. -/
  clock : s'.clock = s.clock
  /-- The grace period is the same. -/
  grace : s'.grace = s.grace
  /-- A result takes no time to deliver. -/
  due : s.slot.tag ≠ .done → s'.slot.tag = .done → s'.due = s.due

theorem Keeps.refl : s.Keeps s :=
  ⟨rfl, rfl, fun _ _ => rfl⟩

theorem keeps_takeUp (s : Station σ τ) (job : Job) : s.Keeps (s.takeUp job) := by
  cases job <;>
  · simp only [takeUp]
    split <;> exact ⟨rfl, rfl, fun _ _ => rfl⟩

theorem keeps_stepTask (s : Station σ τ) (task : Task τ) : s.Keeps (s.stepTask task) := by
  cases task with
  | code state =>
    simp only [stepTask]
    split
    · exact ⟨rfl, rfl, fun _ _ => rfl⟩
    · exact ⟨rfl, rfl, fun hs hd => absurd hd hs⟩
  | script code limit registers counter steps began =>
    simp only [stepTask, conclude]
    split
    · split <;> exact ⟨rfl, rfl, fun _ _ => rfl⟩
    · exact ⟨rfl, rfl, fun hs hd => absurd hd hs⟩

theorem keeps_work (s : Station σ τ) : s.Keeps s.work := by
  cases ht : s.task with
  | some task =>
    rw [work_of_task ht]
    exact keeps_stepTask s task
  | none =>
    cases hc : s.slot.claim? with
    | none =>
      rw [work_of_none ht hc]
      exact .refl
    | some slot =>
      have htag : slot.takeJob.2.tag ≠ .done := by
        unfold Slot.claim? at hc
        split at hc <;> cases hc
        exact nofun
      cases hj : slot.job with
      | some job =>
        rw [work_of_claim ht hc hj]
        obtain ⟨hclock, hgrace, hdue⟩ := keeps_takeUp { s with slot := slot.takeJob.2 } job
        exact ⟨hclock, hgrace, fun _ => hdue htag⟩
      | none =>
        rw [work_of_miss ht hc hj]
        exact ⟨rfl, rfl, fun _ _ => rfl⟩

theorem clock_workUntil (time fuel : Nat) (s : Station σ τ) :
    (workUntil time fuel s).clock = s.clock ∧ (workUntil time fuel s).grace = s.grace := by
  induction fuel generalizing s with
  | zero => exact ⟨rfl, rfl⟩
  | succ fuel ih =>
    unfold workUntil
    split
    · obtain ⟨hclock, hgrace⟩ := ih s.work
      exact ⟨hclock.trans (keeps_work s).clock, hgrace.trans (keeps_work s).grace⟩
    · exact ⟨rfl, rfl⟩

/-- A result is there by the deadline. -/
theorem due_workUntil_le {time fuel : Nat} (hs : s.slot.tag ≠ .done)
    (hd : (workUntil time fuel s).slot.tag = .done) : (workUntil time fuel s).due ≤ time := by
  induction fuel generalizing s with
  | zero => exact absurd hd hs
  | succ fuel ih =>
    unfold workUntil at hd ⊢
    split at hd
    case isTrue hbusy =>
      rw [if_pos hbusy]
      by_cases hw : s.work.slot.tag = .done
      · rw [workUntil_of_idle (isBusy_of_done hw), (keeps_work s).due hs hw]
        simp only [Bool.and_eq_true, decide_eq_true_eq] at hbusy
        exact hbusy.2
      · exact ih hw hd
    case isFalse => exact absurd hd hs

theorem Works.grace_eq (h : s.Works s') : s'.grace = s.grace := by
  induction h with
  | refl => rfl
  | @work s' _ ih => exact (keeps_work s').grace.trans ih
  | elapse _ _ _ _ _ _ ih => exact ih

/-! ## Turns -/

theorem due_takeUp (s : Station σ τ) (job : Job) : (s.takeUp job).due = s.due := by
  cases job <;>
  · simp only [takeUp]
    split <;> rfl

theorem due_lt_spend (time : Nat) (s : Station σ τ) : s.due < (s.spend time).due :=
  Nat.lt_add_of_pos_right (Nat.lt_of_lt_of_le Nat.one_pos (Nat.le_max_left _ _))

/-- A step of a job that goes on takes time. -/
theorem due_lt_stepTask {task : Task τ} (hb : (s.stepTask task).isBusy = true) :
    s.due < (s.stepTask task).due := by
  cases task with
  | code state =>
    simp only [stepTask] at hb ⊢
    split at hb
    · cases hb
    · exact due_lt_spend _ _
  | script code limit registers counter steps began =>
    simp only [stepTask, conclude] at hb ⊢
    split at hb
    · split at hb <;> cases hb
    · exact due_lt_spend _ _

/-- The worker makes no station busy, whenever it acts. -/
theorem isBusy_of_workUntil {time fuel : Nat} (hb : (workUntil time fuel s).isBusy = true) :
    s.isBusy = true := by
  cases hs : s.isBusy with
  | true => rfl
  | false => rwa [workUntil_of_idle hs, hs] at hb

/-- A worker that is at a job has turns enough if they are as many as nanoseconds. -/
theorem lt_due_of_task {time fuel : Nat} {task : Task τ} (ht : s.task = some task)
    (hf : time < s.due + fuel) (hb : (workUntil time fuel s).isBusy = true) :
    time < (workUntil time fuel s).due := by
  induction fuel generalizing s task with
  | zero => exact hf
  | succ fuel ih =>
    rcases Nat.lt_or_ge time s.due with hlt | hle
    · rwa [workUntil_of_early hlt]
    have hs := isBusy_of_workUntil hb
    rw [workUntil_of_busy hs hle, work_of_task ht] at hb ⊢
    have hw := isBusy_of_workUntil hb
    obtain ⟨next, hnext⟩ := (progress_stepTask s task).exists_task hw
    have hlt := due_lt_stepTask hw
    exact ih hnext (by omega) hb

/-- Where a job waits, the worker claims it, and that takes no time. -/
theorem At.due_work {c : Control Job Answer} (h : s.At c) (ht : s.task = none)
    (hb : s.isBusy = true) (hw : s.work.isBusy = true) :
    s.work.due = s.due ∧ ∃ task, s.work.task = some task := by
  obtain ⟨events, w, hr, hdoes⟩ := h
  obtain ⟨g, past, hf, -, -⟩ := exists_stage_of_run hr
  rw [ht] at hdoes
  generalize hs : s.slot = slot at hf
  have hslot : slot.tag.isBusy = true := hs ▸ hb
  cases hdoes
  cases hf with
  | vacant | delivered | collected => cases hslot
  | offered job r flag =>
    have hc : s.slot.claim? = some ⟨.running, some job, r, flag⟩ := by
      rw [hs]
      rfl
    rw [work_of_claim ht hc rfl] at hw ⊢
    exact ⟨due_takeUp _ job, (progress_takeUp _ job).exists_task hw⟩

/-- The number of turns is never what stops the worker : there is no job any more, or the time of
its next step has not come. -/
theorem At.lt_due_of_turns {c : Control Job Answer} (h : s.At c) (time : Nat)
    (hb : (Station.workUntil time (s.turns time) s).isBusy = true) :
    time < (Station.workUntil time (s.turns time) s).due := by
  cases ht : s.task with
  | some task => exact lt_due_of_task ht (by rw [turns]; omega) hb
  | none =>
    rcases Nat.lt_or_ge time s.due with hlt | hle
    · rwa [workUntil_of_early hlt]
    have hturns : s.turns time = time + 1 - s.due + 1 := by
      rw [turns]
      omega
    have hs := isBusy_of_workUntil hb
    rw [hturns, workUntil_of_busy hs hle] at hb ⊢
    obtain ⟨hdue, task, hnext⟩ := h.due_work ht hs (isBusy_of_workUntil hb)
    exact lt_due_of_task hnext (by omega) hb

/-! ## The control thread -/

/-- A wait for a result that is not there yet is over by its deadline. -/
theorem clock_await_le (hs : s.slot.tag ≠ .done) (budget : Nat) :
    (s.await budget).2.clock ≤ s.clock + millis budget ∧
      (s.await budget).2.grace = s.grace := by
  obtain ⟨hclock, hgrace⟩ : (s.acted budget).clock = s.clock ∧ (s.acted budget).grace = s.grace :=
    clock_workUntil _ _ s
  by_cases hd : (s.acted budget).slot.tag = .done
  · have hdue : (s.acted budget).due ≤ s.clock + millis budget := due_workUntil_le hs hd
    rw [await_of_done rfl hd]
    exact ⟨Nat.max_le.mpr ⟨hclock ▸ Nat.le_add_right _ _, hdue⟩, hgrace⟩
  · rw [await_of_ne_done rfl hd]
    exact ⟨Nat.le_refl _, hgrace⟩

/-- A job that is late is given up within the grace period. -/
theorem clock_wait_le (hs : s.slot.tag ≠ .done) (budget : Nat) :
    (s.wait budget).2.clock ≤ s.clock + millis budget + millis s.grace := by
  obtain ⟨hclock, hgrace⟩ := clock_await_le hs budget
  by_cases hd : (s.acted budget).slot.tag = .done
  · rw [wait_of_some (await_of_done rfl hd)]
    rw [await_of_done rfl hd] at hclock
    exact Nat.le_trans hclock (Nat.le_add_right _ _)
  · have hawait : s.await budget = (none, _) := await_of_ne_done rfl hd
    obtain ⟨r, hwait⟩ := exists_wait_eq hawait
    rw [hawait] at hgrace
    have late : ({ s.acted budget with clock := s.clock + millis budget } :
        Station σ τ).cancel.slot.tag ≠ .done := hd
    rw [hwait, ← hgrace]
    exact (clock_await_le late _).1

/-- A job takes the control thread the time of the wait and the grace period at most. -/
theorem clock_run_le (job : Job) (budget : Nat) (s : Station σ τ) :
    (s.run job budget).2.clock ≤ s.clock + millis (budget + s.grace) := by
  have hmillis : millis (budget + s.grace) = millis budget + millis s.grace := Nat.mul_add _ _ _
  rw [hmillis, ← Nat.add_assoc]
  unfold run
  cases hb : s.isBusy with
  | true =>
    rw [submit_of_busy job hb]
    dsimp only
    omega
  | false =>
    obtain ⟨remarks, hs⟩ := exists_submit_eq job hb
    have ready : (s.accepting job remarks).slot.tag ≠ .done := nofun
    have hwait := clock_wait_le ready budget
    rw [hs]
    dsimp only [accepting] at hwait ⊢
    exact hwait

end Coprocessor.Handoff.Station
