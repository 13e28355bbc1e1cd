/-!
# Execution states

What a device says it is doing with its code.
-/

namespace Coprocessor

/-- The state a device reports. -/
inductive ExecState where
  /-- No code is loaded. -/
  | idle
  /-- Code is loaded and has not run. -/
  | loaded
  /-- A job is waiting or running. -/
  | running
  /-- The loaded code has run. -/
  | done
  deriving DecidableEq, Repr

namespace ExecState

/-- The code on the wire. -/
def code : ExecState → UInt32
  | .idle => 0
  | .loaded => 1
  | .running => 2
  | .done => 3

/-- The state with a code. -/
def ofCode? (code : UInt32) : Option ExecState :=
  [ExecState.idle, .loaded, .running, .done].find? (·.code == code)

/-- The one-word name. -/
def name : ExecState → String
  | .idle => "Idle"
  | .loaded => "Loaded"
  | .running => "Running"
  | .done => "Done"

/-- A state is found by its code. -/
theorem ofCode?_code (s : ExecState) : ofCode? s.code = some s := by
  cases s <;> decide

/-- The state found has the code looked for. -/
theorem code_of_ofCode? {c : UInt32} {s : ExecState} (h : ofCode? c = some s) : s.code = c := by
  simpa using List.find?_some h

end ExecState

end Coprocessor
