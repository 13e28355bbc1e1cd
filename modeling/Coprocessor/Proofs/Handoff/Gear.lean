import Coprocessor.Proofs.Handoff.Schedule
import Coprocessor.Proofs.Script.Statement

/-!
# What a station has for good

Neither the worker nor the control thread changes what jobs are run with, the grace period or
the size of the mailbox (`Station.gear_work`, `Station.gear_run`). Scripts clear the mailbox and
append to it, but its buffer stays the same (`Script.capacity_step`).
-/

namespace Coprocessor

open Handoff

variable {σ τ : Type}

/-! ## Scripts -/

namespace Script

variable (board : Pins.Board σ)

theorem capacity_execute (m : Machine σ) (i : Instruction) :
    (m.execute board i).2.mailbox.capacity = m.mailbox.capacity := by
  cases i with
  | branch left comparison right target =>
    simp only [Machine.execute]
    split <;> rfl
  | _ => rfl

/-- A statement leaves the size of the mailbox as it is. -/
theorem capacity_step (code : Array Instruction) (limit : UInt32) (sample : Sample) (r : Run σ) :
    (r.step board code limit sample).elim (·.2.mailbox.capacity) (·.machine.mailbox.capacity) =
      r.machine.mailbox.capacity := by
  have hleft : ∀ x : (Outcome × Machine σ) ⊕ Run σ,
      x.elim (·.2.mailbox.capacity) (·.machine.mailbox.capacity) =
        (Run.left x).mailbox.capacity := fun x => by cases x <;> rfl
  rw [hleft]
  rcases Run.left_step board code limit sample r with hsame | ⟨i, -, hdone⟩
  · rw [hsame]
  · rw [hdone, capacity_execute]

end Script

/-! ## Stations -/

namespace Handoff.Station

/-- What a station has for good : what it runs jobs with, the grace period and the size of the
mailbox. -/
def gear (s : Station σ τ) : Facility σ τ × Nat × Nat :=
  (s.facility, s.grace, s.mailbox.capacity)

variable (s : Station σ τ)

theorem gear_remark (r : Remark) : (s.remark r).gear = s.gear :=
  rfl

theorem gear_conclude (outcome : Script.Outcome) (statements : Nat) :
    (s.conclude outcome statements).gear = s.gear := by
  simp only [conclude]
  split <;> rfl

theorem gear_takeUp (job : Job) : (s.takeUp job).gear = s.gear := by
  cases job <;>
  · simp only [takeUp]
    split <;> rfl

theorem gear_stepTask (task : Task τ) : (s.stepTask task).gear = s.gear := by
  cases task with
  | code state =>
    simp only [stepTask]
    split <;> rfl
  | script code limit registers counter steps began =>
    have hkeeps := Script.capacity_step s.facility.board code limit
      ⟨(s.due - began) / 1000, s.slot.cancelled⟩ ⟨⟨registers, s.mailbox, s.pins⟩, counter, steps⟩
    simp only [stepTask]
    split
    case h_1 outcome m heq =>
      rw [heq] at hkeeps
      rw [gear_conclude]
      exact Prod.ext rfl (Prod.ext rfl hkeeps)
    case h_2 run heq =>
      rw [heq] at hkeeps
      exact Prod.ext rfl (Prod.ext rfl hkeeps)

theorem gear_work : s.work.gear = s.gear := by
  unfold work
  split
  · exact gear_stepTask s _
  split
  · rfl
  dsimp only
  split
  · exact gear_takeUp _ _
  · rfl

theorem gear_workUntil (time fuel : Nat) : (workUntil time fuel s).gear = s.gear := by
  induction fuel generalizing s with
  | zero => rfl
  | succ fuel ih =>
    unfold workUntil
    split
    · exact (ih s.work).trans s.gear_work
    · rfl

theorem gear_passTo (time : Nat) : (s.passTo time).gear = s.gear :=
  gear_workUntil s _ _

theorem gear_await (budget : Nat) : (s.await budget).2.gear = s.gear := by
  have hacted : (s.acted budget).gear = s.gear := gear_workUntil s _ _
  by_cases hd : (s.acted budget).slot.tag = .done
  · rw [await_of_done rfl hd]
    exact hacted
  · rw [await_of_ne_done rfl hd]
    exact hacted

theorem gear_wait (budget : Nat) : (s.wait budget).2.gear = s.gear := by
  have hawait := s.gear_await budget
  rcases ha : s.await budget with ⟨_ | answer, s'⟩
  · obtain ⟨r, hw⟩ := exists_wait_eq ha
    rw [ha] at hawait
    rw [hw, gear_remark, gear_await]
    exact hawait
  · rw [wait_of_some ha]
    rwa [ha] at hawait

theorem gear_run (job : Job) (budget : Nat) : (s.run job budget).2.gear = s.gear := by
  unfold run
  cases hb : s.isBusy with
  | true => rw [submit_of_busy job hb]
  | false =>
    obtain ⟨remarks, hs⟩ := exists_submit_eq job hb
    rw [hs]
    exact gear_wait _ _

end Handoff.Station

end Coprocessor
