import Coprocessor.Proofs.Handoff.Schedule
import Coprocessor.Proofs.Script.Statement

/-!
# Jobs complete

A job that was accepted is at some time delivered, if the program that it runs comes to
an end. `Station.Delivers` says so of a worker that is at a task : step after step takes
time, and after the last one there is an answer. A script is delivered at the time that
its statements take (`Station.Runs.delivers`), a call of code on the emulated core at the
time that its instructions take (`Station.Emulates.delivers`), whatever a statement or an
instruction costs. The answers are those of `Script.Run.finish` and `Thumb.Core.run`.

Whoever submits a job and waits long enough gets that answer, whatever the slot held
before (`Station.answers_of_delivers`) : the stale result is dropped and the cancel flag is
lowered before the worker can see the job.
-/

namespace Coprocessor.Handoff

variable {σ τ : Type}

namespace Station

variable {s : Station σ τ} {answer : Answer} {mailbox : Mailbox} {pins : σ} {due : Nat}

/-! ## From a task to its answer -/

/-- An answer waits since some time, and a mailbox and pins were left. -/
structure Delivered (answer : Answer) (mailbox : Mailbox) (pins : σ) (due : Nat)
    (s : Station σ τ) : Prop where
  tag : s.slot.tag = .done
  result : s.slot.result = some answer
  mailbox : s.mailbox = mailbox
  pins : s.pins = pins
  due : s.due = due

/-- The worker does step after step until an answer waits. Only the last step takes no time. -/
inductive Delivers (answer : Answer) (mailbox : Mailbox) (pins : σ) (due : Nat) :
    Station σ τ → Prop
  | last {s : Station σ τ} (hb : s.isBusy = true) (hd : s.due = due)
      (hw : s.work.Delivered answer mailbox pins due) : Delivers answer mailbox pins due s
  | more {s : Station σ τ} (hb : s.isBusy = true) (hlt : s.due < s.work.due)
      (h : Delivers answer mailbox pins due s.work) : Delivers answer mailbox pins due s

theorem delivered_deliver (answer : Answer) (s : Station σ τ) :
    (s.deliver answer).Delivered answer s.mailbox s.pins s.due :=
  ⟨rfl, rfl, rfl, rfl, rfl⟩

theorem Delivers.le_due (h : s.Delivers answer mailbox pins due) : s.due ≤ due := by
  induction h with
  | last hb hd hw => exact Nat.le_of_eq hd
  | more hb hlt h ih => omega

/-- The answer is there once its time has come. -/
theorem Delivers.delivered_workUntil {time fuel : Nat} (h : s.Delivers answer mailbox pins due)
    (ht : due ≤ time) (hf : due < s.due + fuel) :
    (Station.workUntil time fuel s).Delivered answer mailbox pins due := by
  induction h generalizing fuel with
  | last hb hd hw =>
    obtain ⟨fuel, rfl⟩ : ∃ k, fuel = k + 1 := Nat.exists_eq_add_one.mpr (by omega)
    rw [workUntil_of_busy hb (by omega), workUntil_of_idle (isBusy_of_done hw.tag)]
    exact hw
  | more hb hlt h ih =>
    have hdue := h.le_due
    obtain ⟨fuel, rfl⟩ : ∃ k, fuel = k + 1 := Nat.exists_eq_add_one.mpr (by omega)
    rw [workUntil_of_busy hb (by omega)]
    exact ih (by omega)

/-! ## From a job to its answer -/

/-- A job that is waited for is answered in some way, and a mailbox and pins are left. -/
def Answers (job : Job) (wait : Nat) (answer : Answer) (mailbox : Mailbox) (pins : σ)
    (s : Station σ τ) : Prop :=
  (s.run job wait).1 = answer ∧ (s.run job wait).2.mailbox = mailbox ∧
    (s.run job wait).2.pins = pins

/-- The station when the worker has claimed the job that was accepted. -/
def claimed (remarks : List Remark) (s : Station σ τ) : Station σ τ :=
  { s with
    slot := ⟨.running, none, none, false⟩
    due := s.clock + s.facility.runner.costs.wake
    remarks := remarks }

theorem work_accepting {job : Job} {remarks : List Remark} (ht : s.task = none) :
    (s.accepting job remarks).work = (s.claimed remarks).takeUp job :=
  work_of_claim (s := s.accepting job remarks) ht rfl rfl

/-- Whoever waits long enough gets the answer, whatever the slot held before. -/
theorem answers_of_delivers {job : Job} {wait : Nat} (hb : s.isBusy = false)
    (h : ∀ remarks, (s.accepting job remarks).work.Delivered answer mailbox pins due ∨
      (s.accepting job remarks).work.due = s.clock + s.facility.runner.costs.wake ∧
        (s.accepting job remarks).work.Delivers answer mailbox pins due)
    (hle : s.clock + s.facility.runner.costs.wake ≤ due) (hd : due ≤ s.clock + millis wait) :
    s.Answers job wait answer mailbox pins := by
  obtain ⟨remarks, hs⟩ := exists_submit_eq job hb
  replace h := h remarks
  have hclock : (s.accepting job remarks).clock = s.clock := rfl
  have hdue : (s.accepting job remarks).due = s.clock + s.facility.runner.costs.wake := rfl
  have hbusy : (s.accepting job remarks).isBusy = true := rfl
  generalize s.accepting job remarks = ready at *
  -- the answer comes in time, so the worker gets enough turns
  obtain ⟨fuel, hfuel⟩ : ∃ k, ready.turns (ready.clock + millis wait) = k + 1 :=
    Nat.exists_eq_add_one.mpr (by rw [turns]; omega)
  have hacted : (ready.acted wait).Delivered answer mailbox pins due := by
    rw [acted, hfuel, workUntil_of_busy hbusy (by omega)]
    rcases h with hw | ⟨htaken, hw⟩
    · rw [workUntil_of_idle (isBusy_of_done hw.tag)]
      exact hw
    · rw [turns] at hfuel
      exact hw.delivered_workUntil (by omega) (by omega)
  have hcollect : (ready.acted wait).slot.collect.1 = some answer := by
    rw [Slot.collect, if_pos hacted.tag]
    exact hacted.result
  have hsame : ready.acted wait = ready.acted wait := rfl
  have hwait := wait_of_some (await_of_done hsame hacted.tag)
  rw [Answers, Station.run, hs]
  simp only [hwait, hcollect, Option.getD_some, hacted.mailbox, hacted.pins, and_self]

end Station

/-! ## The time that a script takes -/

namespace Facility

variable (f : Facility σ τ) (code : Array Script.Instruction)

/-- The time that a statement takes from one run to the next, in nanoseconds. -/
def timeBetween (r next : Script.Run σ) : Nat :=
  max 1 (f.runner.costs.statement r.steps +
    1000 * (f.waited next.machine.pins - f.waited r.machine.pins))

/-- The time that the next statement of a run takes, and the run after it. -/
def lap (r : Script.Run σ) : Nat × Script.Run σ :=
  match r.step f.board code 0 .calm with
  | .inl _ => (0, r)
  | .inr next => (f.timeBetween r next, next)

/-- The time that the first `n` statements of a run take, in nanoseconds, and the run after
them. -/
def laps (first : Script.Run σ) : Nat → Nat × Script.Run σ
  | 0 => (0, first)
  | n + 1 =>
    let (before, r) := laps first n
    let (time, next) := f.lap code r
    (before + time, next)

/-- What a run sees before a statement if nobody cancels it : the microseconds that have passed
since its first statement. -/
def watch (first r : Script.Run σ) : Script.Sample :=
  ⟨(f.laps code first r.steps).1 / 1000, false⟩

variable {f code} {limit : UInt32} {first r next : Script.Run σ} {sample : Script.Sample}
  {outcome : Script.Outcome} {m : Script.Machine σ} {before : Nat}

theorem laps_succ {n : Nat} (h : f.laps code first n = (before, r)) :
    f.laps code first (n + 1) = (before + (f.lap code r).1, (f.lap code r).2) := by
  rw [laps, h]

theorem laps_of_next (hr : f.laps code first r.steps = (before, r))
    (h : r.step f.board code limit sample = .inr next) :
    f.laps code first next.steps = (before + f.timeBetween r next, next) := by
  obtain ⟨hcalm, hsteps⟩ := Script.Run.step_calm_of_next h
  rw [hsteps, laps_succ hr, lap, hcalm]

/-- The last step takes no time. -/
theorem laps_of_over (hr : f.laps code first r.steps = (before, r))
    (h : r.step f.board code limit sample = .inl (outcome, m)) :
    (f.laps code first outcome.steps).1 = before := by
  rcases Script.Run.steps_of_over h with hsteps | ⟨hsteps, hcalm⟩
  · rw [hsteps, hr]
  · rw [hsteps, laps_succ hr, lap, hcalm]
    rfl

end Facility

/-- The answer that comes of a run. -/
def Answer.ofOutcome (outcome : Script.Outcome) : Answer :=
  if outcome.ending.isSuccess then .ok outcome.value else .error .timeout

namespace Station

/-! ## Scripts -/

section

variable {s : Station σ τ} {code : Array Script.Instruction} {limit : UInt32} {began : Nat}
  {first r next : Script.Run σ} {outcome : Script.Outcome} {m : Script.Machine σ}
  {content : Bytes} {arguments : List Int32} {wait : Nat}

/-- The worker is at a statement of a script, and nobody has cancelled it. -/
structure Runs (code : Array Script.Instruction) (limit : UInt32) (began : Nat)
    (first r : Script.Run σ) (s : Station σ τ) : Prop where
  tag : s.slot.tag = .running
  cancelled : s.slot.cancelled = false
  task : s.task = some (.script code limit r.machine.registers r.counter r.steps began)
  mailbox : s.mailbox = r.machine.mailbox
  pins : s.pins = r.machine.pins
  laps : ∃ before, s.facility.laps code first r.steps = (before, r) ∧ s.due = began + before

/-- The worker shows a run what it may see if nobody cancels it. -/
theorem Runs.sample (h : s.Runs code limit began first r) :
    (⟨(s.due - began) / 1000, s.slot.cancelled⟩ : Script.Sample) =
      s.facility.watch code first r := by
  obtain ⟨before, hlaps, hdue⟩ := h.laps
  rw [Facility.watch, hlaps, h.cancelled, hdue, Nat.add_sub_cancel_left]

theorem Runs.work_of_over (h : s.Runs code limit began first r)
    (hs : r.step s.facility.board code limit (s.facility.watch code first r) = .inl (outcome, m)) :
    s.work = { s with mailbox := m.mailbox, pins := m.pins }.conclude outcome code.size := by
  simp only [work_of_task h.task, stepTask, h.sample, h.mailbox, h.pins, hs]

theorem Runs.work_of_next (h : s.Runs code limit began first r)
    (hs : r.step s.facility.board code limit (s.facility.watch code first r) = .inr next) :
    s.work = { s with
      mailbox := next.machine.mailbox
      pins := next.machine.pins
      task := some (.script code limit next.machine.registers next.counter next.steps began) }.spend
        (s.facility.runner.costs.statement r.steps +
          1000 * (s.facility.waited next.machine.pins - s.facility.waited r.machine.pins)) := by
  simp only [work_of_task h.task, stepTask, h.sample, h.mailbox, h.pins, hs]

theorem delivered_conclude (s : Station σ τ) (outcome : Script.Outcome) (statements : Nat) :
    (s.conclude outcome statements).Delivered (.ofOutcome outcome) s.mailbox s.pins s.due := by
  simp only [conclude, Answer.ofOutcome]
  split
  · exact delivered_deliver _ (s.remark (.finished outcome statements))
  · exact delivered_deliver _ ((s.remark (.finished outcome statements)).remark (.stopped outcome))

/-- After a statement the worker is at the next one, later. -/
theorem Runs.goes_on (h : s.Runs code limit began first r)
    (hs : r.step s.facility.board code limit (s.facility.watch code first r) = .inr next) :
    s.work.facility = s.facility ∧ s.due < s.work.due ∧
      s.work.Runs code limit began first next := by
  obtain ⟨before, hlaps, hdue⟩ := h.laps
  have hnext := Facility.laps_of_next hlaps hs
  rw [h.work_of_next hs]
  refine ⟨rfl, ?_, h.tag, h.cancelled, rfl, rfl, rfl, _, hnext, ?_⟩
  · simp only [spend]
    omega
  · simp only [spend, hdue, Facility.timeBetween, Nat.add_assoc]

/-- A run that comes to an end is delivered at the time that its statements take. -/
theorem Runs.delivers {fuel : Nat} (h : s.Runs code limit began first r)
    (hr : r.finish s.facility.board code limit (s.facility.watch code first) fuel =
      some (outcome, m)) :
    s.Delivers (.ofOutcome outcome) m.mailbox m.pins
      (began + (s.facility.laps code first outcome.steps).1) := by
  induction fuel generalizing s r with
  | zero => cases hr
  | succ fuel ih =>
    rw [Script.Run.finish] at hr
    split at hr
    · rename_i done hs
      cases hr
      obtain ⟨before, hlaps, hdue⟩ := h.laps
      rw [Facility.laps_of_over hlaps hs, ← hdue]
      refine .last (isBusy_of_running h.tag) rfl ?_
      rw [h.work_of_over hs]
      exact delivered_conclude { s with mailbox := m.mailbox, pins := m.pins } outcome code.size
    · rename_i next hs
      obtain ⟨hf, hlt, hnext⟩ := h.goes_on hs
      refine .more (isBusy_of_running h.tag) hlt ?_
      rw [← hf] at hr ⊢
      exact ih hnext hr

theorem takeUp_program {program : Script.Program}
    (h : Script.Program.parse s.facility.limits content = .ok program) :
    s.takeUp (.script content arguments limit) =
      { s with task := some (.script program.instructions limit
          (Arguments.padded Arguments.scriptCount arguments) 0 0 s.due) } := by
  simp only [takeUp, h]

theorem takeUp_rejected {e : Script.ProgramError}
    (h : Script.Program.parse s.facility.limits content = .error e) :
    s.takeUp (.script content arguments limit) =
      (s.remark (.rejected e)).deliver (.error .execution) := by
  simp only [takeUp, h]

/-- A script that is no program is answered as such, and nothing else happens. -/
theorem answers_rejected {e : Script.ProgramError} (hb : s.isBusy = false) (ht : s.task = none)
    (he : Script.Program.parse s.facility.limits content = .error e)
    (hd : s.facility.runner.costs.wake ≤ millis wait) :
    s.Answers (.script content arguments limit) wait (.error .execution) s.mailbox s.pins := by
  refine answers_of_delivers hb (fun remarks => Or.inl ?_) (Nat.le_refl _) (by omega)
  rw [work_accepting ht, takeUp_rejected (s := s.claimed remarks) he]
  exact delivered_deliver _ ((s.claimed remarks).remark (.rejected e))

/-- A script that is waited for long enough is answered as its run ends, which leaves the
mailbox and the pins. -/
theorem answers_script {program : Script.Program} {fuel : Nat} (hb : s.isBusy = false)
    (ht : s.task = none) (hp : Script.Program.parse s.facility.limits content = .ok program)
    (hf : .start (.load arguments s.mailbox s.pins) = first)
    (hr : first.finish s.facility.board program.instructions limit
      (s.facility.watch program.instructions first) fuel = some (outcome, m))
    (hd : s.facility.runner.costs.wake +
      (s.facility.laps program.instructions first outcome.steps).1 ≤ millis wait) :
    s.Answers (.script content arguments limit) wait (.ofOutcome outcome) m.mailbox m.pins := by
  have hend : s.clock + s.facility.runner.costs.wake +
      (s.facility.laps program.instructions first outcome.steps).1 ≤ s.clock + millis wait := by
    omega
  refine answers_of_delivers hb (fun remarks => Or.inr ?_) (by omega) hend
  have hwork : (s.accepting (.script content arguments limit) remarks).work = _ :=
    (work_accepting ht).trans (takeUp_program (s := s.claimed remarks) hp)
  have htask : (s.accepting (.script content arguments limit) remarks).work.Runs
      program.instructions limit (s.clock + s.facility.runner.costs.wake) first first := by
    rw [hwork, ← hf]
    exact ⟨rfl, rfl, rfl, rfl, rfl, 0, rfl, rfl⟩
  have hfacility : (s.accepting (.script content arguments limit) remarks).work.facility =
      s.facility := by
    rw [hwork]
    rfl
  rw [← hfacility] at hr
  have hdelivers := htask.delivers hr
  rw [hfacility] at hdelivers
  refine ⟨?_, hdelivers⟩
  rw [hwork]
  rfl

end

end Station

/-! ## Calls of code -/

/-- The time that a core takes for the instructions before the last one, in nanoseconds. -/
def Emulation.laps (pace : Emulation → Nat) (code : Array UInt8) : Nat → Thumb.Core → Nat
  | 0, _ => 0
  | left + 1, core =>
    match core.step code with
    | .ok next => max 1 (pace ⟨code, core, left + 1⟩) + laps pace code left next
    | .error _ => 0

namespace Station

variable {s : Station σ Emulation} {pace : Emulation → Nat} {costs : Costs} {code : Array UInt8}
  {core : Thumb.Core} {budget left : Nat}

/-- The worker is at an instruction of code, and nobody has cancelled it. -/
structure Emulates (pace : Emulation → Nat) (code : Array UInt8) (core : Thumb.Core) (left : Nat)
    (s : Station σ Emulation) : Prop where
  runner : ∃ budget costs, s.facility.runner = .emulator budget pace costs
  tag : s.slot.tag = .running
  cancelled : s.slot.cancelled = false
  task : s.task = some (.code ⟨code, core, left⟩)

theorem Emulates.work_of_over {answer : Answer} (h : s.Emulates pace code core left)
    (hs : Emulation.step false ⟨code, core, left⟩ = .inl answer) : s.work = s.deliver answer := by
  obtain ⟨budget, costs, hrunner⟩ := h.runner
  simp only [work_of_task h.task, stepTask, hrunner, Runner.emulator, h.cancelled, hs]

theorem Emulates.work_of_next {next : Emulation} (h : s.Emulates pace code core left)
    (hs : Emulation.step false ⟨code, core, left⟩ = .inr next) :
    s.work = { s with task := some (.code next) }.spend (pace ⟨code, core, left⟩) := by
  obtain ⟨budget, costs, hrunner⟩ := h.runner
  simp only [work_of_task h.task, stepTask, hrunner, Runner.emulator, h.cancelled, hs]

/-- After an instruction the worker is at the next one, later. -/
theorem Emulates.goes_on {next : Thumb.Core} (h : s.Emulates pace code core (left + 1))
    (hs : core.step code = .ok next) :
    s.work.Emulates pace code next left ∧ s.work.mailbox = s.mailbox ∧ s.work.pins = s.pins ∧
      s.work.due = s.due + max 1 (pace ⟨code, core, left + 1⟩) := by
  have hstep : Emulation.step false ⟨code, core, left + 1⟩ = .inr ⟨code, next, left⟩ := by
    simp [Emulation.step, hs]
  rw [h.work_of_next hstep]
  exact ⟨⟨h.runner, h.tag, h.cancelled, rfl⟩, rfl, rfl, rfl⟩

/-- A call of code on the emulated core is delivered at the time that its instructions take. -/
theorem Emulates.delivers (h : s.Emulates pace code core left) (count : Nat) :
    s.Delivers (Thumb.Core.run code (fun _ => false) left count core) s.mailbox s.pins
      (s.due + Emulation.laps pace code left core) := by
  induction left generalizing s core count with
  | zero =>
    refine .last (isBusy_of_running h.tag) rfl ?_
    rw [h.work_of_over rfl]
    exact delivered_deliver _ s
  | succ left ih =>
    cases hs : core.step code with
    | ok next =>
      obtain ⟨hnext, hmailbox, hpins, hdue⟩ := h.goes_on hs
      have hrun : Thumb.Core.run code (fun _ => false) (left + 1) count core =
          Thumb.Core.run code (fun _ => false) left (count + 1) next := by
        simp [Thumb.Core.run, hs]
      have hlaps : s.due + Emulation.laps pace code (left + 1) core =
          s.work.due + Emulation.laps pace code left next := by
        simp only [Emulation.laps, hs, hdue, Nat.add_assoc]
      rw [hrun, hlaps, ← hmailbox, ← hpins]
      exact .more (isBusy_of_running h.tag) (by omega) (ih hnext (count + 1))
    | error halt =>
      have hlaps : Emulation.laps pace code (left + 1) core = 0 := by
        simp only [Emulation.laps, hs]
      have hstep : Emulation.step false ⟨code, core, left + 1⟩ =
          .inl (Thumb.Core.run code (fun _ => false) (left + 1) count core) := by
        cases halt <;> simp [Emulation.step, Thumb.Core.run, hs]
      rw [hlaps]
      refine .last (isBusy_of_running h.tag) rfl ?_
      rw [h.work_of_over hstep]
      exact delivered_deliver _ s

/-- A call of code that is waited for long enough returns what the core returns. -/
theorem answers_code {budget wait : Nat} {content : Bytes}
    {arguments : Vector Int32 Arguments.codeCount} (hb : s.isBusy = false) (ht : s.task = none)
    (hr : s.facility.runner = .emulator budget pace costs)
    (hd : costs.wake + Emulation.laps pace content.toArray budget (.start arguments) ≤
      millis wait) :
    s.Answers (.code content arguments) wait
      (Thumb.Core.invoke content arguments (fun _ => false) budget) s.mailbox s.pins := by
  have hwake : s.facility.runner.costs.wake = costs.wake := by rw [hr]; rfl
  have hend : s.clock + s.facility.runner.costs.wake +
      Emulation.laps pace content.toArray budget (.start arguments) ≤ s.clock + millis wait := by
    omega
  cases ha : Thumb.Core.accepts content with
  | true =>
    refine answers_of_delivers hb (fun remarks => Or.inr ?_) (by omega) hend
    have htask : (s.accepting (.code content arguments) remarks).work.Emulates pace content.toArray
        (.start arguments) budget := by
      rw [work_accepting ht, takeUp, if_pos ha]
      exact ⟨⟨budget, costs, hr⟩, rfl, rfl, by rw [claimed, hr]; rfl⟩
    have hdelivers := htask.delivers 0
    rw [work_accepting ht, takeUp, if_pos ha] at hdelivers ⊢
    rw [Thumb.Core.invoke, if_pos ha]
    exact ⟨rfl, hdelivers⟩
  | false =>
    refine answers_of_delivers hb (fun remarks => Or.inl ?_) (Nat.le_refl _) (by omega)
    rw [work_accepting ht, takeUp, if_neg (by simp [ha]), Thumb.Core.invoke,
      if_neg (by simp [ha])]
    exact delivered_deliver _ (s.claimed remarks)

end Station

end Coprocessor.Handoff
