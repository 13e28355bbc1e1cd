import Coprocessor.Handoff.Slot
import Coprocessor.Log
import Coprocessor.Script.Machine

/-!
# What is remarked on jobs

The things that happen to jobs which the log tells of.
-/

namespace Coprocessor.Handoff

/-- Something that happened to a job. -/
inductive Remark where
  /-- A script came to an end. -/
  | finished (outcome : Script.Outcome) (statements : Nat)
  /-- A script was stopped. -/
  | stopped (outcome : Script.Outcome)
  /-- A script was no program. -/
  | rejected (cause : Script.ProgramError)
  /-- A result that nobody waited for was dropped. -/
  | dropped (answer : Answer)
  /-- A job stopped after it was asked to. -/
  | yielded
  /-- A job did not stop after it was asked to. -/
  | abandoned
  deriving Repr

/-- The entry in the log. -/
def Remark.entry : Remark → Log.Entry
  | finished o statements => ⟨.debug,
      s!"script finished: {o.ending.name} value={o.value} steps={o.steps} lines={statements}"⟩
  | stopped o => ⟨.debug, s!"script stopped after {o.steps} steps: {o.ending.name}"⟩
  | rejected cause => ⟨.warn, s!"script rejected: {cause.message}"⟩
  | dropped answer => ⟨.debug, s!"discarding result of abandoned job: {showAnswer answer}"⟩
  | yielded => ⟨.debug, "job stopped within the grace period"⟩
  | abandoned => ⟨.warn, "job ignored cancel, abandoning it"⟩

end Coprocessor.Handoff
