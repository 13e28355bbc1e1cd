import Coprocessor.Arguments
import Coprocessor.Status

/-!
# The shared slot

A control thread hands jobs to a worker through a slot that both can reach. A tag
tells whose turn it is :

* `idle` : the control thread may put a job into the slot and publish `ready`.
* `ready` : the worker may claim the job, which makes the tag `running`.
* `running` : the worker puts the result into the slot and publishes `done`.
* `done` : the control thread takes the result out and publishes `idle`.

A flag beside the slot asks the worker to stop. Each access to the tag, the slot
and the flag is one operation here; `collect` is what the control thread does in a
row when it finds a result.
-/

namespace Coprocessor.Handoff

/-- Whose turn it is. -/
inductive Tag where
  /-- The slot is free. -/
  | idle
  /-- A job waits. -/
  | ready
  /-- A job was claimed. -/
  | running
  /-- A result waits. -/
  | done
  deriving DecidableEq, Repr

/-- The one-word name of a tag. -/
def Tag.name : Tag → String
  | idle => "Idle"
  | ready => "Ready"
  | running => "Running"
  | done => "Done"

/-- Whether a job waits or runs. -/
def Tag.isBusy : Tag → Bool
  | ready | running => true
  | idle | done => false

/-- What both threads can reach, for jobs of type `ι` and results of type `ρ`. -/
structure Slot (ι ρ : Type) where
  /-- Whose turn it is. -/
  tag : Tag
  /-- The job in the slot. -/
  job : Option ι
  /-- The result in the slot. -/
  result : Option ρ
  /-- Whether the worker is asked to stop. -/
  cancelled : Bool
  deriving DecidableEq, Repr

namespace Slot

variable {ι ρ : Type}

/-- The slot before the first job. -/
def empty : Slot ι ρ :=
  ⟨.idle, none, none, false⟩

/-! ## Single operations -/

/-- Sets the tag. -/
def publish (t : Tag) (s : Slot ι ρ) : Slot ι ρ :=
  { s with tag := t }

/-- Makes the tag `running` if it is `ready`. -/
def claim? (s : Slot ι ρ) : Option (Slot ι ρ) :=
  if s.tag = .ready then some (s.publish .running) else none

/-- Puts a job into the slot. -/
def fill (job : ι) (s : Slot ι ρ) : Slot ι ρ :=
  { s with job := some job, result := none }

/-- Takes the job out of the slot. -/
def takeJob (s : Slot ι ρ) : Option ι × Slot ι ρ :=
  (s.job, { s with job := none })

/-- Puts a result into the slot. -/
def putResult (r : ρ) (s : Slot ι ρ) : Slot ι ρ :=
  { s with result := some r }

/-- Takes the result out of the slot. -/
def takeResult (s : Slot ι ρ) : Option ρ × Slot ι ρ :=
  (s.result, { s with result := none })

/-- Asks the worker to stop. -/
def raise (s : Slot ι ρ) : Slot ι ρ :=
  { s with cancelled := true }

/-- Asks the worker no longer to stop. -/
def lower (s : Slot ι ρ) : Slot ι ρ :=
  { s with cancelled := false }

/-! ## Operations in a row -/

/-- The result, if there is one, and the slot free again. -/
def collect (s : Slot ι ρ) : Option ρ × Slot ι ρ :=
  if s.tag = .done then
    let (r, s) := s.takeResult
    (r, s.publish .idle)
  else (none, s)

/-- The slot with a job that the worker may claim. -/
def offer (job : ι) (s : Slot ι ρ) : Slot ι ρ :=
  ((s.fill job).lower).publish .ready

/-- The slot with a result that the control thread may collect. -/
def deliver (r : ρ) (s : Slot ι ρ) : Slot ι ρ :=
  (s.putResult r).publish .done

end Slot

/-! ## Jobs -/

/-- What the worker is asked to do. -/
inductive Job where
  /-- Call code. -/
  | code (content : Bytes) (arguments : Vector Int32 Arguments.codeCount)
  /-- Run a script within a time limit in milliseconds. -/
  | script (content : Bytes) (arguments : List Int32) (limit : UInt32)
  deriving Repr

/-- What came of a job. -/
abbrev Answer := Except Status Int32

/-- An answer as it is shown. -/
def showAnswer : Answer → String
  | .ok value => s!"Ok({value})"
  | .error status => s!"Err({status.name})"

end Coprocessor.Handoff
