import Coprocessor.Handoff.Remark
import Coprocessor.Handoff.Runner

/-!
# The station

A station is the control thread, the worker and what they share, with a clock. The
worker acts at certain times : it claims a job, and then does one step of it after
the other (`Station.work`). The control thread submits jobs and waits for answers;
while it waits, the worker acts as often as the time allows (`Station.workUntil`).

A job that does not end in time is asked to stop. If it does not stop within a
grace period it is abandoned : it goes on, and no other job is accepted until it
ends. Its result is then dropped by the next job that is submitted.
-/

namespace Coprocessor.Handoff

/-- What jobs are run with. -/
structure Facility (σ τ : Type) where
  /-- The board. -/
  board : Pins.Board σ
  /-- The time that programs have waited on the board, in microseconds. -/
  waited : σ → Nat
  /-- The runner of code. -/
  runner : Runner σ τ
  /-- The limits of scripts. -/
  limits : Script.Limits

/-- A job that the worker is at. -/
inductive Task (τ : Type) where
  /-- A call of code. -/
  | code (state : τ)
  /-- A run of a script, begun at some time. -/
  | script (code : Array Script.Instruction) (limit : UInt32) (registers : Vector Int32 16)
      (counter steps began : Nat)

/-- A control thread, a worker and what they share. -/
structure Station (σ τ : Type) where
  /-- What jobs are run with. -/
  facility : Facility σ τ
  /-- The grace period in milliseconds. -/
  grace : Nat
  /-- The shared slot. -/
  slot : Slot Job Answer := .empty
  /-- The job that the worker is at. -/
  task : Option (Task τ) := none
  /-- The time of the control thread, in nanoseconds. -/
  clock : Nat := 0
  /-- The time at which the worker acts next. -/
  due : Nat := 0
  /-- The mailbox. -/
  mailbox : Mailbox
  /-- The state of the board. -/
  pins : σ
  /-- What happened to jobs, the newest first. -/
  remarks : List Remark := []

namespace Station

variable {σ τ : Type}

/-- Whether a job waits or runs. -/
def isBusy (s : Station σ τ) : Bool :=
  s.slot.tag.isBusy

/-- The station with a remark. -/
def remark (r : Remark) (s : Station σ τ) : Station σ τ :=
  { s with remarks := r :: s.remarks }

/-- The station after the worker has acted for some time, which is never none at all. -/
def spend (time : Nat) (s : Station σ τ) : Station σ τ :=
  { s with due := s.due + max 1 time }

/-! ## The worker -/

/-- The worker delivers an answer. -/
def deliver (answer : Answer) (s : Station σ τ) : Station σ τ :=
  { s with slot := s.slot.deliver answer, task := none }

/-- The worker takes up a job. -/
def takeUp (s : Station σ τ) : Job → Station σ τ
  | .code content arguments =>
    if Thumb.Core.accepts content then
      { s with task := some (.code (s.facility.runner.start content arguments)) }
    else s.deliver (.error .parameter)
  | .script content arguments limit =>
    match Script.Program.parse s.facility.limits content with
    | .ok program =>
      { s with task := some (.script program.instructions limit
          (Arguments.padded Arguments.scriptCount arguments) 0 0 s.due) }
    | .error cause => (s.remark (.rejected cause)).deliver (.error .execution)

/-- The worker ends a run of a script. -/
def conclude (outcome : Script.Outcome) (statements : Nat) (s : Station σ τ) : Station σ τ :=
  let s := s.remark (.finished outcome statements)
  if outcome.ending.isSuccess then s.deliver (.ok outcome.value)
  else (s.remark (.stopped outcome)).deliver (.error .timeout)

/-- The worker does a step of the job that it is at. -/
def stepTask (s : Station σ τ) : Task τ → Station σ τ
  | .code state =>
    match s.facility.runner.step s.slot.cancelled s.pins state with
    | .inl answer => s.deliver answer
    | .inr next => { s with task := some (.code next) }.spend (s.facility.runner.pace state)
  | .script code limit registers counter steps began =>
    let run : Script.Run σ := ⟨⟨registers, s.mailbox, s.pins⟩, counter, steps⟩
    match run.step s.facility.board code limit ⟨(s.due - began) / 1000, s.slot.cancelled⟩ with
    | .inl (outcome, m) =>
      { s with mailbox := m.mailbox, pins := m.pins }.conclude outcome code.size
    | .inr run =>
      let m := run.machine
      let waited := s.facility.waited m.pins - s.facility.waited s.pins
      { s with
          mailbox := m.mailbox
          pins := m.pins
          task := some (.script code limit m.registers run.counter run.steps began) }.spend
        (s.facility.runner.costs.statement steps + 1000 * waited)

/-- The worker acts once : it does a step of its job, or claims the job that waits. -/
def work (s : Station σ τ) : Station σ τ :=
  match s.task with
  | some task => s.stepTask task
  | none =>
    match s.slot.claim? with
    | none => s
    | some slot =>
      let (job, slot) := slot.takeJob
      match job with
      | some job => { s with slot }.takeUp job
      | none => { s with slot }.deliver (.error .state)

/-- The worker acts as long as there is a job and its time has come, `fuel` times at most. -/
def workUntil (time : Nat) : Nat → Station σ τ → Station σ τ
  | 0, s => s
  | fuel + 1, s => if s.isBusy && s.due ≤ time then workUntil time fuel s.work else s

/-- How often the worker can act until some time at most : each step of a job takes time, but to
claim one takes none. -/
def turns (time : Nat) (s : Station σ τ) : Nat :=
  time + 2 - s.due

/-- The station at a later time of the control thread. -/
def passTo (time : Nat) (s : Station σ τ) : Station σ τ :=
  { workUntil time (s.turns time) s with clock := max time s.clock }

/-- The station after the least number of milliseconds, up to a limit, at which a condition
holds. -/
def passUntil (p : Station σ τ → Bool) (s : Station σ τ) (limit : Nat := 60000) : Station σ τ :=
  match limit with
  | 0 => s
  | limit + 1 => if p s then s else passUntil p (s.passTo (s.clock + millis 1)) limit

/-! ## The control thread -/

/-- Asks the worker to stop. -/
def cancel (s : Station σ τ) : Station σ τ :=
  { s with slot := s.slot.raise }

/-- Submits a job, unless another one waits or runs. -/
def submit (job : Job) (s : Station σ τ) : Except Status Unit × Station σ τ :=
  if s.isBusy then (.error .state, s)
  else
    let (stale, slot) := s.slot.collect
    let s := { s with slot := slot.offer job, due := s.clock + s.facility.runner.costs.wake }
    (.ok (), match stale with
      | some answer => s.remark (.dropped answer)
      | none => s)

/-- Waits for an answer, for some milliseconds at most. -/
def await (budget : Nat) (s : Station σ τ) : Option Answer × Station σ τ :=
  let deadline := s.clock + millis budget
  let s := workUntil deadline (s.turns deadline) s
  if s.slot.tag = .done then
    let (answer, slot) := s.slot.collect
    (some (answer.getD (.error .state)), { s with slot, clock := max s.clock s.due })
  else (none, { s with clock := deadline })

/-- Waits for the answer to the job submitted; if it is late the worker is asked to stop
and gets the grace period, and the answer is that the time is over. -/
def wait (budget : Nat) (s : Station σ τ) : Answer × Station σ τ :=
  match s.await budget with
  | (some answer, s) => (answer, s)
  | (none, s) =>
    let (late, s) := s.cancel.await s.grace
    (.error .timeout, s.remark (if late.isSome then .yielded else .abandoned))

/-- Submits a job and waits for the answer. -/
def run (job : Job) (budget : Nat) (s : Station σ τ) : Answer × Station σ τ :=
  match s.submit job with
  | (.ok (), s) => s.wait budget
  | (.error status, s) => (.error status, s)

end Station

end Coprocessor.Handoff
