import Coprocessor.Device.Frames
import Coprocessor.Proofs.Device.Effects
import Coprocessor.Proofs.Handoff.Schedule

/-!
# Devices and their histories

A device answers requests while its worker acts, time passes, and others use the mailbox
and the pins. `Device.Reachable` are the devices that some history leads to. A request
does one of three things to the station (`Device.touches_answer`) : it leaves the slot
and the task alone, it asks the worker to stop, or it runs a job. So between requests the
control thread is free, whatever happened before (`Device.Reachable.at_free`), and a
device that runs no job has no task left (`Device.Reachable.task_eq_none`). Its buffers
keep to the limits of its settings (`Device.Reachable.stocked`).
-/

namespace Coprocessor.Device

open Handoff

variable {σ τ : Type} {d : Device σ τ}

/-! ## What a request does to the station -/

/-- What a request may do to a station. -/
inductive Touches (s s' : Station σ τ) : Prop
  | spares (hs : s'.slot = s.slot) (ht : s'.task = s.task)
  | cancels (hs : s'.slot = s.slot.raise) (ht : s'.task = s.task)
  | runs (job : Job) (budget : Nat) (h : s' = (s.run job budget).2)

theorem Effect.touches {d' : Device σ τ} (h : Effect d d') : Touches d.station d'.station := by
  cases h with
  | uses | programs | leaves => exact .spares rfl rfl
  | cancels | clears => exact .cancels rfl rfl
  | announces kind | appends kind | verifies kind => cases kind <;> exact .spares rfl rfl
  | runs hs budget => exact .runs _ budget rfl

theorem touches_answer (c : Command) (payload : Bytes) :
    Touches d.station (d.answer c payload).2.station :=
  (effect_answer c payload).touches

theorem Touches.at_free {s s' : Station σ τ} (h : Touches s s') (hs : s.At .free) :
    s'.At .free := by
  cases h with
  | spares hslot htask =>
    rw [Station.At, hslot, htask]
    exact hs
  | cancels hslot htask =>
    rw [Station.At, hslot, htask]
    exact ComesTo.cancel hs
  | runs job budget h =>
    rw [h]
    exact hs.run job budget

/-! ## Histories -/

/-- A device that some history of requests, turns of the worker and time leads to, with any
functions added, any memory, and others at the mailbox and the pins. -/
inductive Reachable : Device σ τ → Prop
  | start (config : Config) (board : Pins.Board σ) (waited : σ → Nat) (runner : Runner σ τ)
    (pins : σ) : Reachable (.start config board waited runner pins)
  | answer {d : Device σ τ} (h : Reachable d) (c : Command) (payload : Bytes) :
    Reachable (d.answer c payload).2
  | work {d : Device σ τ} (h : Reachable d) : Reachable { d with station := d.station.work }
  | pass {d : Device σ τ} (h : Reachable d) (time : Nat) :
    Reachable { d with station := d.station.passTo time }
  | touch {d : Device σ τ} (h : Reachable d) (mailbox : Mailbox) (pins : σ) :
    Reachable { d with station := { d.station with mailbox := mailbox, pins := pins } }
  | equip {d : Device σ τ} (h : Reachable d) (functions : FunctionTable σ)
    (memory : Nat → Bool) : Reachable { d with functions := functions, memory := memory }
  | log {d : Device σ τ} (h : Reachable d) : Reachable d.takeEntries.2

/-- Between requests the control thread is free. -/
theorem Reachable.at_free (h : Reachable d) : d.station.At .free := by
  induction h with
  | start config board waited runner pins => exact comesTo_empty
  | answer h c payload ih => exact (touches_answer c payload).at_free ih
  | work h ih => exact ih.work
  | pass h time ih => exact ih.workUntil _ _
  | touch h mailbox pins ih => exact ih
  | equip h functions memory ih => exact ih
  | log h ih => exact ih

/-- Where no job waits or runs, no task is left of the jobs before. -/
theorem Reachable.task_eq_none (h : Reachable d) (hb : d.station.isBusy = false) :
    d.station.task = none :=
  h.at_free.task_eq_none hb

/-- Whatever happened before, the buffers keep to the limits of the settings. -/
theorem Reachable.stocked (h : Reachable d) : d.Stocked d.config := by
  induction h with
  | start config board waited runner pins => exact stocked_start config board waited runner pins
  | answer h c payload ih =>
    have kept := (effect_answer c payload).stocked ih
    rwa [kept.config_eq]
  | work h ih | pass h time ih | touch h mailbox pins ih | equip h functions memory ih | log h ih =>
    exact ⟨rfl, ih.code, ih.script⟩

end Coprocessor.Device
