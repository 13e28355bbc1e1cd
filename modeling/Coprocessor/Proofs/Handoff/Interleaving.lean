import Coprocessor.Handoff.Slot

/-!
# Interleavings of the two threads

The control thread and the worker share a slot. Here each of them is at some place in
its own code (`Control`, `Worker`), and every access to the tag, to the content of the
slot or to the flag is one step (`Step`). A run (`Run`) is any sequence of steps from
the empty slot : between two steps of one thread the other one may do any number of
its own, and the flag may be raised at any time.

The control thread submits jobs and waits for results, in any order. The worker claims
a job, executes it with any result after any delay, and delivers. The branches that a
thread takes when it finds nothing where something should be are steps too; `lost` is
the result that they make up.
-/

namespace Coprocessor.Handoff

variable {ι ρ : Type}

/-! ## Places -/

/-- What the control thread collects a result for. -/
inductive Purpose (ι : Type) where
  /-- To put a job into its place. -/
  | submit (job : ι)
  /-- To return it; `late` tells whether the wait has given up already. -/
  | wait (late : Bool)

/-- What the control thread does next. -/
inductive Control (ι ρ : Type) where
  /-- It calls something. -/
  | free
  /-- It looks at the tag to submit a job. -/
  | submitting (job : ι)
  /-- It looks at the tag to find a result. -/
  | waiting (late : Bool)
  /-- It looks at the tag again before it takes the result. -/
  | checking (purpose : Purpose ι)
  /-- It takes the result. -/
  | taking (purpose : Purpose ι)
  /-- It makes the slot free, with what it took in its hand. -/
  | freeing (purpose : Purpose ι) (found : Option ρ)
  /-- It puts the job into the slot. -/
  | filling (job : ι)
  /-- It lowers the flag. -/
  | lowering (job : ι)
  /-- It publishes the job. -/
  | publishing (job : ι)
  /-- It raises the flag. -/
  | raising

/-- What the worker does next. -/
inductive Worker (ι ρ : Type) where
  /-- It tries to claim a job. -/
  | watching
  /-- It takes the job that it has claimed. -/
  | claimed
  /-- It executes what it took. -/
  | executing (found : Option ι)
  /-- It puts the result into the slot. -/
  | storing (result : ρ)
  /-- It publishes the result. -/
  | delivering

/-- The shared slot and both threads. -/
structure Threads (ι ρ : Type) where
  /-- The shared slot. -/
  slot : Slot ι ρ
  /-- The control thread. -/
  control : Control ι ρ
  /-- The worker. -/
  worker : Worker ι ρ

/-- What can be told of a step. -/
inductive Event (ι ρ : Type) where
  /-- Nothing. -/
  | silent
  /-- A job was refused. -/
  | refuse (job : ι)
  /-- A job was accepted : it is published. -/
  | accept (job : ι)
  /-- The flag was lowered. -/
  | lower
  /-- A wait has given up on the job : the flag is raised. -/
  | giveUp
  /-- The flag was raised by a call for it. -/
  | cancel
  /-- The control thread took a result out of the slot. -/
  | collect (found : Option ρ)
  /-- A wait returned a result. -/
  | answer (result : ρ)
  /-- A wait returned that the time is over. -/
  | expire
  /-- The worker claimed a job. -/
  | claim
  /-- The worker took a job out of the slot. -/
  | take (found : Option ι)
  /-- The worker executed a job. -/
  | execute (job : ι) (result : ρ)
  /-- The worker published a result. -/
  | deliver

/-! ## Steps -/

/-- What the control thread does after it has collected, and what can be told of it. -/
def Purpose.next (lost : ρ) (found : Option ρ) : Purpose ι → Event ι ρ × Control ι ρ
  | submit job => (.silent, .filling job)
  | wait false => (.answer (found.getD lost), .free)
  | wait true => (.expire, .free)

/-- One step of the control thread. -/
inductive ControlStep (lost : ρ) :
    Slot ι ρ → Control ι ρ → Event ι ρ → Slot ι ρ → Control ι ρ → Prop
  /-- A job is to be submitted. -/
  | callSubmit (s) (job : ι) : ControlStep lost s .free .silent s (.submitting job)
  /-- A result is waited for. -/
  | callWait (s) : ControlStep lost s .free .silent s (.waiting false)
  /-- The tag shows a job that waits or runs. -/
  | refuse (s) (job : ι) (h : s.tag.isBusy = true) :
      ControlStep lost s (.submitting job) (.refuse job) s .free
  /-- The tag shows a result that nobody waited for. -/
  | findStale (s) (job : ι) (h : s.tag = .done) :
      ControlStep lost s (.submitting job) .silent s (.checking (.submit job))
  /-- The tag shows a free slot. -/
  | findFree (s) (job : ι) (h : s.tag = .idle) :
      ControlStep lost s (.submitting job) .silent s (.filling job)
  /-- The tag still shows a result. -/
  | checkDone (s p) (h : s.tag = .done) : ControlStep lost s (.checking p) .silent s (.taking p)
  /-- The tag shows no result any more. -/
  | checkGone (s p) (h : s.tag ≠ .done) :
      ControlStep lost s (.checking p) (p.next lost none).1 s (p.next lost none).2
  /-- The result is taken. -/
  | takeResult (s p) :
      ControlStep lost s (.taking p) (.collect s.takeResult.1) s.takeResult.2
        (.freeing p s.takeResult.1)
  /-- The slot is made free. -/
  | release (s p) (found : Option ρ) :
      ControlStep lost s (.freeing p found) (p.next lost found).1 (s.publish .idle)
        (p.next lost found).2
  /-- The job is put into the slot. -/
  | fill (s) (job : ι) : ControlStep lost s (.filling job) .silent (s.fill job) (.lowering job)
  /-- The flag is lowered. -/
  | lower (s) (job : ι) : ControlStep lost s (.lowering job) .lower s.lower (.publishing job)
  /-- The job is published. -/
  | accept (s) (job : ι) :
      ControlStep lost s (.publishing job) (.accept job) (s.publish .ready) .free
  /-- The tag shows a result. -/
  | findDone (s) (late : Bool) (h : s.tag = .done) :
      ControlStep lost s (.waiting late) .silent s (.checking (.wait late))
  /-- The tag shows no result, and there is time left. -/
  | lookAgain (s) (late : Bool) (h : s.tag ≠ .done) :
      ControlStep lost s (.waiting late) .silent s (.waiting late)
  /-- The tag shows no result, and the time is over. -/
  | runOut (s) (h : s.tag ≠ .done) : ControlStep lost s (.waiting false) .silent s .raising
  /-- The flag is raised, and the time begins that the job gets to stop in. -/
  | giveUp (s) : ControlStep lost s .raising .giveUp s.raise (.waiting true)
  /-- The tag shows no result, and that time is over too. -/
  | abandon (s) (h : s.tag ≠ .done) : ControlStep lost s (.waiting true) .expire s .free

/-- One step of the worker. -/
inductive WorkerStep (lost : ρ) :
    Slot ι ρ → Worker ι ρ → Event ι ρ → Slot ι ρ → Worker ι ρ → Prop
  /-- There is a job to claim. -/
  | claim {s s'} (h : s.claim? = some s') : WorkerStep lost s .watching .claim s' .claimed
  /-- There is no job to claim. -/
  | watch (s) (h : s.claim? = none) : WorkerStep lost s .watching .silent s .watching
  /-- The job is taken. -/
  | takeJob (s) :
      WorkerStep lost s .claimed (.take s.takeJob.1) s.takeJob.2 (.executing s.takeJob.1)
  /-- The job ends, with any result. -/
  | execute (s) (job : ι) (result : ρ) :
      WorkerStep lost s (.executing (some job)) (.execute job result) s (.storing result)
  /-- There was no job in the slot. -/
  | miss (s) : WorkerStep lost s (.executing none) .silent s (.storing lost)
  /-- The result is put into the slot. -/
  | putResult (s) (result : ρ) :
      WorkerStep lost s (.storing result) .silent (s.putResult result) .delivering
  /-- The result is published. -/
  | deliver (s) : WorkerStep lost s .delivering .deliver (s.publish .done) .watching

/-- One step : of the control thread, of the worker, or of somebody who calls for the
flag. -/
inductive Step (lost : ρ) : Threads ι ρ → Event ι ρ → Threads ι ρ → Prop
  | control {s c e s' c'} (w) (h : ControlStep lost s c e s' c') :
      Step lost ⟨s, c, w⟩ e ⟨s', c', w⟩
  | worker {s w e s' w'} (c) (h : WorkerStep lost s w e s' w') :
      Step lost ⟨s, c, w⟩ e ⟨s', c, w'⟩
  | cancel (s c w) : Step lost ⟨s, c, w⟩ .cancel ⟨s.raise, c, w⟩

/-- A run with its events, the first one first. -/
inductive Run (lost : ρ) : List (Event ι ρ) → Threads ι ρ → Prop
  /-- Both threads begin with the empty slot. -/
  | start : Run lost [] ⟨.empty, .free, .watching⟩
  /-- A thread does a step. -/
  | step {events t e t'} (before : Run lost events t) (last : Step lost t e t') :
      Run lost (events ++ [e]) t'

/-- The events since the last job was accepted. -/
def Latest (events : List (Event ι ρ)) (job : ι) (since : List (Event ι ρ)) : Prop :=
  (∃ before, events = before ++ .accept job :: since) ∧ ∀ other, .accept other ∉ since

end Coprocessor.Handoff
