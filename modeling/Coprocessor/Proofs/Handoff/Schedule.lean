import Coprocessor.Handoff.Station
import Coprocessor.Proofs.Handoff.Exclusion

/-!
# Stations interleave

A station runs the two threads on one schedule. Whatever it does, each of them does
steps of its own, so a station is always where some run of the threads comes to
(`Station.At`), and what is true of runs is true of stations : a station whose slot
shows no job is at no task (`Station.At.task_eq_none`).

Where the times at which the worker acts do not matter, it may act at any
(`Station.Works`). It makes no station busy that is not (`Station.Works.isBusy`).
-/

namespace Coprocessor.Handoff

variable {σ τ : Type}

/-- The place of a worker that is at a task, or at none. -/
inductive Worker.Does : Worker Job Answer → Option (Task τ) → Prop
  | nothing : Does .watching none
  | something (job : Job) (task : Task τ) : Does (.executing (some job)) (some task)

/-- A run comes to a slot, with the control thread at a place and the worker at a task. -/
def ComesTo (slot : Slot Job Answer) (c : Control Job Answer) (task : Option (Task τ)) : Prop :=
  ∃ events w, Run (.error .state) events ⟨slot, c, w⟩ ∧ w.Does task

section

variable {slot slot' : Slot Job Answer} {c c' : Control Job Answer} {task : Option (Task τ)}
  {e : Event Job Answer}

theorem comesTo_empty : ComesTo (τ := τ) .empty .free none :=
  ⟨_, _, .start, .nothing⟩

theorem ComesTo.control (h : ComesTo slot c task)
    (hs : ControlStep (.error .state) slot c e slot' c') : ComesTo slot' c' task := by
  obtain ⟨events, w, hr, hw⟩ := h
  exact ⟨_, w, hr.step (.control w hs), hw⟩

theorem ComesTo.cancel (h : ComesTo slot c task) : ComesTo slot.raise c task := by
  obtain ⟨events, w, hr, hw⟩ := h
  exact ⟨_, w, hr.step (.cancel slot c w), hw⟩

/-- The control thread offers a job. -/
theorem ComesTo.offer {job : Job} (h : ComesTo slot (.filling job) task) :
    ComesTo (slot.offer job) .free task :=
  ((h.control (.fill _ _)).control (.lower _ _)).control (.accept _ _)

/-- The control thread collects a result. -/
theorem ComesTo.collect {p : Purpose Job} (h : ComesTo slot (.checking p) task)
    (hd : slot.tag = .done) :
    ComesTo slot.collect.2 (p.next (.error .state) slot.collect.1).2 task := by
  rw [Slot.collect, if_pos hd]
  exact ((h.control (.checkDone _ _ hd)).control (.takeResult _ _)).control (.release _ _ _)

/-- Where no job waits or runs, the worker is at none. -/
theorem ComesTo.task_eq_none (h : ComesTo slot c task) (hb : slot.tag.isBusy = false) :
    task = none := by
  obtain ⟨events, w, hr, hw⟩ := h
  cases hw with
  | nothing => rfl
  | something job task =>
    obtain ⟨g, past, hf, -, -⟩ := exists_stage_of_run hr
    cases hf
    cases hb

end

namespace Station

variable {s s' s'' : Station σ τ} {c c' : Control Job Answer}

/-- A station is where some run comes to, with the control thread at a place. -/
def At (s : Station σ τ) (c : Control Job Answer) : Prop :=
  ComesTo s.slot c s.task

/-! ## The worker -/

theorem work_of_task {task : Task τ} (h : s.task = some task) : s.work = s.stepTask task := by
  rw [Station.work, h]

theorem work_of_none (h : s.task = none) (hc : s.slot.claim? = none) : s.work = s := by
  rw [Station.work, h, hc]

theorem work_of_claim {slot : Slot Job Answer} {job : Job} (h : s.task = none)
    (hc : s.slot.claim? = some slot) (hj : slot.job = some job) :
    s.work = { s with slot := slot.takeJob.2 }.takeUp job := by
  simp only [Station.work, h, hc, Slot.takeJob, hj]

theorem work_of_miss {slot : Slot Job Answer} (h : s.task = none)
    (hc : s.slot.claim? = some slot) (hj : slot.job = none) :
    s.work = { s with slot := slot.takeJob.2 }.deliver (.error .state) := by
  simp only [Station.work, h, hc, Slot.takeJob, hj]

theorem isBusy_of_done (h : s.slot.tag = .done) : s.isBusy = false := by
  rw [isBusy, h]
  rfl

theorem isBusy_of_running (h : s.slot.tag = .running) : s.isBusy = true := by
  rw [isBusy, h]
  rfl

theorem workUntil_of_idle {time fuel : Nat} (h : s.isBusy = false) :
    Station.workUntil time fuel s = s := by
  cases fuel with
  | zero => rfl
  | succ fuel => simp [Station.workUntil, h]

theorem workUntil_of_early {time fuel : Nat} (h : time < s.due) :
    Station.workUntil time fuel s = s := by
  cases fuel with
  | zero => rfl
  | succ fuel => simp [Station.workUntil, Nat.not_le_of_lt h]

theorem workUntil_of_busy {time fuel : Nat} (h : s.isBusy = true) (hd : s.due ≤ time) :
    Station.workUntil time (fuel + 1) s = Station.workUntil time fuel s.work := by
  simp [Station.workUntil, h, hd]

/-- What may come of a job : the worker is still at it, or has delivered an answer. -/
inductive Progress (s s' : Station σ τ) : Prop
  | going (task : Task τ) (hs : s'.slot = s.slot) (ht : s'.task = some task)
  | ended (answer : Answer) (hs : s'.slot = s.slot.deliver answer) (ht : s'.task = none)

/-- Where there is still a job, the worker is at it. -/
theorem Progress.exists_task (h : Progress s s') (hb : s'.isBusy = true) :
    ∃ task, s'.task = some task := by
  cases h with
  | going task hs ht => exact ⟨task, ht⟩
  | ended answer hs ht =>
    rw [isBusy, hs] at hb
    cases hb

theorem progress_takeUp (s : Station σ τ) (job : Job) : Progress s (s.takeUp job) := by
  cases job with
  | code content arguments =>
    simp only [takeUp]
    split
    · exact .going _ rfl rfl
    · exact .ended (.error .parameter) rfl rfl
  | script content arguments limit =>
    simp only [takeUp]
    split
    · exact .going _ rfl rfl
    · exact .ended (.error .execution) rfl rfl

theorem progress_conclude (s : Station σ τ) (outcome : Script.Outcome) (statements : Nat) :
    Progress s (s.conclude outcome statements) := by
  simp only [conclude]
  split
  · exact .ended (.ok outcome.value) rfl rfl
  · exact .ended (.error .timeout) rfl rfl

theorem progress_stepTask (s : Station σ τ) (task : Task τ) : Progress s (s.stepTask task) := by
  cases task with
  | code state =>
    simp only [stepTask]
    split
    case h_1 answer _ => exact .ended answer rfl rfl
    case h_2 next _ => exact .going (.code next) rfl rfl
  | script code limit registers counter steps began =>
    simp only [stepTask]
    split
    case h_1 outcome m _ =>
      cases progress_conclude { s with mailbox := m.mailbox, pins := m.pins } outcome code.size with
      | going task hs ht => exact .going task hs ht
      | ended answer hs ht => exact .ended answer hs ht
    case h_2 run _ => exact .going _ rfl rfl

/-- What comes of a job are steps of the worker. -/
theorem Progress.at {events : List (Event Job Answer)} {job : Job} (h : Progress s s')
    (hr : Run (.error .state) events ⟨s.slot, c, .executing (some job)⟩) : s'.At c := by
  cases h with
  | going task hs ht =>
    rw [Station.At, hs, ht]
    exact ⟨_, _, hr, .something job task⟩
  | ended answer hs ht =>
    have stored := (hr.step (.worker c (.execute _ _ answer))).step (.worker c (.putResult _ _))
    have delivered := stored.step (.worker c (.deliver _))
    rw [Station.At, hs, ht]
    exact ⟨_, _, delivered, .nothing⟩

/-- Whenever the worker acts, it does steps of its own. -/
theorem At.work (h : s.At c) : s.work.At c := by
  obtain ⟨events, w, hr, hw⟩ := h
  generalize ht : s.task = task at hw
  cases hw with
  | something job task =>
    rw [work_of_task ht]
    exact (s.progress_stepTask task).at hr
  | nothing =>
    cases hc : s.slot.claim? with
    | none =>
      rw [work_of_none ht hc]
      exact ⟨events, .watching, hr, by rw [ht]; exact .nothing⟩
    | some slot =>
      have taken := (hr.step (.worker c (.claim hc))).step (.worker c (.takeJob _))
      cases hj : slot.job with
      | some job =>
        rw [work_of_claim ht hc hj]
        rw [Slot.takeJob, hj] at taken
        exact (progress_takeUp _ job).at taken
      | none =>
        rw [work_of_miss ht hc hj]
        rw [Slot.takeJob, hj] at taken
        have missed := (taken.step (.worker c (.miss _))).step (.worker c (.putResult _ _))
        exact ⟨_, _, missed.step (.worker c (.deliver _)), .nothing⟩

theorem At.workUntil (time : Nat) (h : s.At c) (fuel : Nat) : (workUntil time fuel s).At c := by
  induction fuel generalizing s with
  | zero => exact h
  | succ fuel ih =>
    unfold Station.workUntil
    split
    · exact ih h.work
    · exact h

/-! ## The control thread -/

/-- While a job waits or runs another one is refused. -/
theorem submit_of_busy (job : Job) (h : s.isBusy = true) : s.submit job = (.error .state, s) := by
  rw [Station.submit, if_pos h]

/-- The station with a job that the worker may claim. -/
def accepting (job : Job) (remarks : List Remark) (s : Station σ τ) : Station σ τ :=
  { s with
    slot := ⟨.ready, some job, none, false⟩
    due := s.clock + s.facility.runner.costs.wake
    remarks := remarks }

/-- While no job waits or runs, a job is accepted whatever else the slot holds. -/
theorem exists_submit_eq (job : Job) (h : s.isBusy = false) :
    ∃ remarks, s.submit job = (.ok (), s.accepting job remarks) := by
  rw [Station.submit, if_neg (by simp [h])]
  cases hc : s.slot.collect with
  | mk stale slot =>
    cases stale with
    | none => exact ⟨s.remarks, rfl⟩
    | some answer => exact ⟨.dropped answer :: s.remarks, rfl⟩

/-- A job that is submitted is refused or accepted. -/
theorem At.submit (h : s.At .free) (job : Job) : (s.submit job).2.At .free := by
  have called : s.At (.submitting job) := h.control (.callSubmit _ _)
  cases hb : s.isBusy with
  | true =>
    rw [submit_of_busy job hb]
    exact called.control (.refuse _ _ hb)
  | false =>
    obtain ⟨remarks, hs⟩ := exists_submit_eq job hb
    rw [hs]
    cases ht : s.slot.tag with
    | ready | running => simp [isBusy, ht, Tag.isBusy] at hb
    | idle => exact (called.control (.findFree _ _ ht)).offer
    | done => exact ((called.control (.findStale _ _ ht)).collect ht).offer

/-- The station when the time of a wait is over, or earlier if there is a result. -/
def acted (budget : Nat) (s : Station σ τ) : Station σ τ :=
  Station.workUntil (s.clock + millis budget) (s.turns (s.clock + millis budget)) s

/-- A wait collects the result that there is by then. -/
theorem await_of_done {budget : Nat} (ha : s.acted budget = s') (hd : s'.slot.tag = .done) :
    s.await budget = (some (s'.slot.collect.1.getD (.error .state)),
      { s' with slot := s'.slot.collect.2, clock := max s'.clock s'.due }) := by
  rw [acted] at ha
  rw [Station.await, ha, if_pos hd]

/-- A wait finds no answer if there is no result by then. -/
theorem await_of_ne_done {budget : Nat} (ha : s.acted budget = s') (hd : s'.slot.tag ≠ .done) :
    s.await budget = (none, { s' with clock := s.clock + millis budget }) := by
  rw [acted] at ha
  rw [Station.await, ha, if_neg hd]

/-- While the control thread waits the worker acts. Then the control thread collects an
answer, or it finds none. -/
theorem At.await {late : Bool} (h : s.At (.waiting late)) (budget : Nat) :
    (s.await budget).1 = none ∧ (s.await budget).2.slot.tag ≠ .done ∧
        (s.await budget).2.At (.waiting late) ∨
      (s.await budget).1 ≠ none ∧ (s.await budget).2.At .free := by
  have hacted : (s.acted budget).At (.waiting late) := h.workUntil _ _
  generalize ha : s.acted budget = s' at hacted
  by_cases hd : s'.slot.tag = .done
  · have collected := (hacted.control (.findDone _ _ hd)).collect hd
    rw [await_of_done ha hd]
    cases late <;> exact Or.inr ⟨nofun, collected⟩
  · rw [await_of_ne_done ha hd]
    exact Or.inl ⟨rfl, hd, hacted⟩

/-- A wait returns an answer that is there in time. -/
theorem wait_of_some {budget : Nat} {answer : Answer} (h : s.await budget = (some answer, s')) :
    s.wait budget = (answer, s') := by
  rw [Station.wait, h]

/-- A wait that finds no answer in time asks the worker to stop, and waits again. -/
theorem exists_wait_eq {budget : Nat} (h : s.await budget = (none, s')) : ∃ r,
    s.wait budget = (.error .timeout, (s'.cancel.await s'.grace).2.remark r) := by
  rw [Station.wait, h]
  exact ⟨_, rfl⟩

/-- When a wait is over the control thread is free. -/
theorem At.wait (h : s.At .free) (budget : Nat) : (s.wait budget).2.At .free := by
  have waiting : s.At (.waiting false) := h.control (.callWait _)
  rcases ha : s.await budget with ⟨answer, s'⟩
  rcases waiting.await budget with ⟨hn, hd, waited⟩ | ⟨hn, collected⟩
  · rw [ha] at hn hd waited
    subst hn
    obtain ⟨r, hw⟩ := exists_wait_eq ha
    rw [hw]
    have raised : s'.cancel.At (.waiting true) := (waited.control (.runOut _ hd)).control (.giveUp _)
    rcases raised.await s'.grace with ⟨-, hd', late⟩ | ⟨-, late⟩
    · exact late.control (.abandon _ hd')
    · exact late
  · rw [ha] at hn collected
    obtain ⟨answer, rfl⟩ := Option.ne_none_iff_exists'.mp hn
    rw [wait_of_some ha]
    exact collected

theorem At.run (h : s.At .free) (job : Job) (budget : Nat) : (s.run job budget).2.At .free := by
  have submitted := h.submit job
  unfold Station.run
  split
  case h_1 s' hs =>
    rw [hs] at submitted
    exact submitted.wait budget
  case h_2 status s' hs =>
    rw [hs] at submitted
    exact submitted

/-! ## Any schedule -/

/-- What becomes of a station while the control thread does nothing : the worker acts, time
passes, and others use the mailbox and the pins. -/
inductive Works (s : Station σ τ) : Station σ τ → Prop
  /-- Nothing happens. -/
  | refl : Works s s
  /-- The worker acts. -/
  | work {s' : Station σ τ} (h : Works s s') : Works s s'.work
  /-- Something else happens. -/
  | elapse {s' : Station σ τ} (h : Works s s') (clock due : Nat) (mailbox : Mailbox) (pins : σ)
      (remarks : List Remark) :
      Works s
        { s' with clock := clock, due := due, mailbox := mailbox, pins := pins, remarks := remarks }

theorem Works.trans (h : s.Works s') (h' : s'.Works s'') : s.Works s'' := by
  induction h' with
  | refl => exact h
  | work _ ih => exact ih.work
  | elapse _ clock due mailbox pins remarks ih => exact ih.elapse clock due mailbox pins remarks

theorem works_workUntil (time fuel : Nat) : s.Works (workUntil time fuel s) := by
  have further : ∀ {s'}, s.Works s' → s.Works (workUntil time fuel s') := by
    intro s' h
    induction fuel generalizing s' with
    | zero => exact h
    | succ fuel ih =>
      unfold workUntil
      split
      · exact ih h.work
      · exact h
  exact further .refl

theorem works_passTo (time : Nat) : s.Works (s.passTo time) :=
  (works_workUntil time _).elapse _ _ _ _ _

/-- The worker makes no station busy. -/
theorem isBusy_work (h : s.isBusy = false) : s.work.isBusy = false := by
  cases ht : s.task with
  | some task =>
    rw [work_of_task ht]
    cases progress_stepTask s task with
    | going task hs => rw [isBusy, hs]; exact h
    | ended answer hs => rw [isBusy, hs]; rfl
  | none =>
    have hc : s.slot.claim? = none := by
      refine if_neg fun hr => ?_
      simp [isBusy, hr, Tag.isBusy] at h
    rw [work_of_none ht hc]
    exact h

theorem Works.isBusy (hw : s.Works s') (h : s.isBusy = false) : s'.isBusy = false := by
  induction hw with
  | refl => exact h
  | work _ ih => exact isBusy_work ih
  | elapse _ _ _ _ _ _ ih => exact ih

end Station

end Coprocessor.Handoff
