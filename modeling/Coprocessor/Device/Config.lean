import Coprocessor.Script.Program

/-!
# Settings of a device
-/

namespace Coprocessor.Device

/-- The settings of a device. -/
structure Config where
  /-- The size of the mailbox buffer. -/
  mailbox : Nat := 256
  /-- The greatest length of code. -/
  codeLimit : Nat := 16384
  /-- The greatest length of a script. -/
  scriptLimit : Nat := 8192
  /-- The time limit of jobs that name none, in milliseconds. -/
  timeout : UInt32 := 1000
  /-- Whether frames are followed by a second checksum. -/
  trailing : Bool := false
  /-- The time that a job gets to stop in, in milliseconds. -/
  grace : Nat := 20
  /-- The limits of scripts. -/
  limits : Script.Limits := {}
  deriving DecidableEq, Repr

end Coprocessor.Device
