import Coprocessor.Command
import Coprocessor.Link.Fault
import Coprocessor.Text.Number

/-!
# How calls fail
-/

namespace Coprocessor.Host

/-- What is wrong with a reply that is not the one expected. -/
inductive Surprise where
  /-- It replies to something else. -/
  | otherFrame (expected : UInt16) (sequence : UInt32) (command : UInt16) (got : UInt32)
  /-- Its status has no meaning. -/
  | unknownStatus (c : Command) (code : Int32)
  /-- The device does not hold what was sent to it. -/
  | otherTotal (held sent : UInt32)
  deriving DecidableEq, Repr

/-- The text in messages. -/
def Surprise.message : Surprise → String
  | otherFrame expected sequence command got =>
    s!"expected cmd {Text.hex16 expected} seq {sequence}, got cmd {Text.hex16 command} seq {got}"
  | unknownStatus c code => s!"{c.name} returned unknown status {code}"
  | otherTotal held sent => s!"device holds {held} bytes, sent {sent}"

/-- Why a call failed. -/
inductive CallError where
  /-- The link failed. -/
  | link (f : Link.Failure)
  /-- There was no reply within some milliseconds. -/
  | noReply (budget : Nat)
  /-- The reply is too short. -/
  | short (needed got : Nat)
  /-- The reply is not the one expected. -/
  | surprise (s : Surprise)
  /-- The device refused. -/
  | refused (s : Status)
  /-- Two checksums differ. -/
  | checksum (expected actual : UInt32)
  deriving DecidableEq, Repr

namespace CallError

/-- The text in messages. -/
def message : CallError → String
  | link f => s!"link i/o failed: {f.message}"
  | noReply budget => s!"no response within {Text.spanMillis budget}"
  | short needed got => s!"response too short: needed {needed} bytes, got {got}"
  | surprise s => s!"unexpected response: {s.message}"
  | refused s => s!"device answered {s.message}"
  | checksum expected actual =>
    s!"crc mismatch: host {Text.hex32 expected}, device {Text.hex32 actual}"

/-- The status that the device refused with, if it did. -/
def status? : CallError → Option Status
  | refused s => some s
  | _ => none

end CallError

end Coprocessor.Host
