import Coprocessor.ExecState
import Coprocessor.Header
import Coprocessor.Upload

/-!
# Replies

What a device says to a request. A reply begins with a status. The fields after it
depend on the request; when a request is refused there are none, except that the
requests that return a value return zero.
-/

namespace Coprocessor.Device

/-- What a device says to a request that it does not refuse. -/
inductive Reply where
  /-- The request is carried out. -/
  | done
  /-- Everything loaded is dropped. -/
  | cleared
  /-- There is room for an upload. -/
  | reserved (kind : Upload.Kind) (total : UInt32)
  /-- The protocol version and the capabilities. -/
  | greeting (capabilities : UInt32)
  /-- Flags, the length of the code and the size of the mailbox buffer. -/
  | info (flags codeLength mailboxSize : UInt32)
  /-- What is said to a piece of an upload. -/
  | receipt (r : Upload.Receipt)
  /-- What is said of an upload, the host having expected a checksum. -/
  | verdict (kind : Upload.Kind) (v : Upload.Verdict) (expected : UInt32)
  /-- The execution state. -/
  | execState (s : ExecState)
  /-- Text from the mailbox. -/
  | mail (text : Bytes)
  /-- The value that code returned. -/
  | codeValue (value : Int32)
  /-- The value that a script or a function returned. -/
  | value (value : Int32)
  deriving DecidableEq, Repr

namespace Reply

/-- The byte form of a status. -/
def statusBytes (s : Status) : Bytes :=
  Codec.i32.encode s.code

/-- The status that a reply begins with. -/
def status : Reply → Status
  | receipt r => r.status
  | verdict _ v _ => v.status
  | _ => .ok

/-- The fields after the status. -/
def fields : Reply → Bytes
  | done | cleared | reserved _ _ => []
  | greeting capabilities =>
    Codec.u16.encode Header.protocol ++ Codec.u16.encode 0 ++ Codec.u32.encode capabilities
  | info flags codeLength mailboxSize =>
    Codec.u32.encode flags ++ Codec.u32.encode codeLength ++ Codec.u32.encode mailboxSize
  | receipt r => Codec.u32.encode r.total
  | verdict .code v _ => Codec.u32.encode v.length
  | verdict .script v _ => Codec.u32.encode v.length ++ Codec.u32.encode v.checksum
  | execState s => Codec.u32.encode s.code
  | mail text => Codec.u32.encode (.ofNat text.length) ++ text
  | codeValue v | value v => Codec.i32.encode v

/-- The payload of a reply. -/
def payload (r : Reply) : Bytes :=
  statusBytes r.status ++ r.fields

/-- Whether replies to a command carry a value even if it is refused. -/
def bearsValue : Command → Bool
  | .exec | .scriptExec | .func => true
  | _ => false

/-- The payload of a refusal. -/
def refusal (c : Command) (s : Status) : Bytes :=
  statusBytes s ++ if bearsValue c then Codec.i32.encode 0 else []

/-- The payload of what is said to a command. -/
def payloadOf (c : Command) : Except Status Reply → Bytes
  | .ok r => r.payload
  | .error s => refusal c s

end Reply

end Coprocessor.Device
