/-!
# Faults of a link

What a link may answer instead of taking or giving bytes.
-/

namespace Coprocessor.Link

/-- A fault of a link. -/
inductive Fault where
  /-- The other end dropped the connection. -/
  | connectionReset
  /-- The other end takes no more bytes. -/
  | brokenPipe
  /-- The other end was silent for too long. -/
  | timedOut
  /-- What came makes no sense. -/
  | invalidData
  /-- There are no more bytes. -/
  | endOfStream
  /-- There is no other end. -/
  | notConnected
  deriving DecidableEq, Repr

/-- The text in messages. -/
def Fault.message : Fault → String
  | connectionReset => "connection reset"
  | brokenPipe => "broken pipe"
  | timedOut => "timed out"
  | invalidData => "invalid data"
  | endOfStream => "unexpected end of file"
  | notConnected => "not connected"

/-- Why a frame could not be written or read. -/
inductive Failure where
  /-- There was too much noise before a frame. -/
  | noise
  /-- The stream ended inside a header or a payload, or before it began. -/
  | cutShort
  /-- The stream ended in the middle of noise. -/
  | ended
  /-- The link had a fault. -/
  | fault (f : Fault)
  deriving DecidableEq, Repr

namespace Failure

/-- The fault that a failure counts as. -/
def kind : Failure → Fault
  | noise => .invalidData
  | cutShort | ended => .endOfStream
  | fault f => f

/-- The text in messages. -/
def message : Failure → String
  | noise => "no frame magic found"
  | cutShort => "early eof"
  | ended => "unexpected end of file"
  | fault f => f.message

end Failure

end Coprocessor.Link
