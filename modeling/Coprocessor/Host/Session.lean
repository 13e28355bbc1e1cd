import Coprocessor.Bytes
import Coprocessor.Host.CallError
import Coprocessor.Log

/-!
# Sessions

A session is what a host does as far as its device can see it : it sends requests, each
after the answer to the one before, pauses, and in the end has a result. Log entries are
written on the way. A session does not say how requests reach the device.
-/

namespace Coprocessor.Host

/-- A session with a result of type `α`. -/
inductive Session (α : Type) where
  /-- The result. -/
  | done (a : α)
  /-- Sends a request, and goes on with the payload of the reply. The device gets `extra`
  milliseconds beyond what it gets for any request. -/
  | request (c : Command) (payload : Bytes) (extra : Nat)
      (next : Except CallError Bytes → Session α)
  /-- Waits for some milliseconds. -/
  | pause (millis : Nat) (next : Session α)
  /-- Writes to the log. -/
  | report (e : Log.Entry) (next : Session α)

namespace Session

/-- A session and then another one that depends on its result. -/
def andThen : Session α → (α → Session β) → Session β
  | done a, f => f a
  | request c payload extra next, f => request c payload extra fun r => (next r).andThen f
  | pause millis next, f => pause millis (next.andThen f)
  | report e next, f => report e (next.andThen f)

instance : Monad Session where
  pure := done
  bind := andThen

theorem andThen_done (x : Session α) : x.andThen done = x := by
  induction x with
  | done a => rfl
  | request c payload extra next ih => simp [andThen, ih]
  | pause millis next ih => simp [andThen, ih]
  | report e next ih => simp [andThen, ih]

theorem andThen_assoc (x : Session α) (f : α → Session β) (g : β → Session γ) :
    (x.andThen f).andThen g = x.andThen fun a => (f a).andThen g := by
  induction x with
  | done a => rfl
  | request c payload extra next ih => simp [andThen, ih]
  | pause millis next ih => simp [andThen, ih]
  | report e next ih => simp [andThen, ih]

end Session

/-- A session that may fail. -/
abbrev Call := ExceptT CallError Session

namespace Call

/-- Sends a request. -/
def request (c : Command) (payload : Bytes) (extra : Nat := 0) : Call Bytes :=
  ExceptT.mk (.request c payload extra .done)

/-- Waits for some milliseconds. -/
def pause (millis : Nat) : Call Unit :=
  ExceptT.mk (.pause millis (.done (.ok ())))

/-- Writes to the log. -/
def report (level : Log.Level) (message : String) : Call Unit :=
  ExceptT.mk (.report ⟨level, message⟩ (.done (.ok ())))

/-- The value, or the failure. -/
def ofExcept (x : Except CallError α) : Call α :=
  ExceptT.mk (.done x)

end Call

end Coprocessor.Host
