import Coprocessor.Handoff.Slot
import Coprocessor.Thumb.Core

/-!
# Runners

A runner is a way to run code step by step. Before each step it sees the cancel
flag and the board. The emulator runs code on a core, one instruction a step, up
to a budget of instructions.

What a worker does takes time. How long its own steps take is told by the runner too; the
times that are used where none are given are nominal.
-/

namespace Coprocessor.Handoff

/-- The times that a worker takes beside those of code, in nanoseconds. -/
structure Costs where
  /-- To see a new job. -/
  wake : Nat := 1000
  /-- For a statement of a script beside its waiting, after a number of statements. -/
  statement : Nat → Nat := fun _ => 1000

/-- A way to run code over boards with states of type `σ`, itself with states of type `τ`. -/
structure Runner (σ τ : Type) where
  /-- The state before the first step of a call. -/
  start : Bytes → Vector Int32 Arguments.codeCount → τ
  /-- The state after a step, or the answer, given the cancel flag and the board. -/
  step : (cancelled : Bool) → σ → τ → Answer ⊕ τ
  /-- The time a step takes, in nanoseconds. -/
  pace : τ → Nat
  /-- The times that the worker takes beside. -/
  costs : Costs := {}

/-- A call of code on a core. -/
structure Emulation where
  /-- The code. -/
  code : Array UInt8
  /-- The core. -/
  core : Thumb.Core
  /-- The number of instructions that may still be done. -/
  left : Nat

namespace Emulation

/-- A call before the first instruction. -/
def start (budget : Nat) (code : Bytes) (arguments : Vector Int32 Arguments.codeCount) :
    Emulation :=
  ⟨code.toArray, .start arguments, budget⟩

/-- The call after one more instruction, or the answer. -/
def step (cancelled : Bool) (e : Emulation) : Answer ⊕ Emulation :=
  match e.left with
  | 0 => .inl (.error .execution)
  | left + 1 =>
    if cancelled then .inl (.error .timeout)
    else match e.core.step e.code with
      | .ok core => .inr ⟨e.code, core, left⟩
      | .error (.returned value) => .inl (.ok value.toInt32)
      | .error .fault => .inl (.error .execution)

end Emulation

/-- The budget of a device that is given none. -/
def Emulation.usualBudget : Nat := 50000000

/-- The runner that emulates a core, with a budget of instructions. -/
def Runner.emulator (budget : Nat) (pace : Emulation → Nat := fun _ => 100) (costs : Costs := {}) :
    Runner σ Emulation where
  start := Emulation.start budget
  step cancelled _ e := e.step cancelled
  pace := pace
  costs := costs

end Coprocessor.Handoff
