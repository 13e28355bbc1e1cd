import Coprocessor.Arguments
import Coprocessor.Checksum
import Coprocessor.ExecState
import Coprocessor.Host.Fields
import Coprocessor.Host.Session
import Coprocessor.Upload

/-!
# Calls

What a host can ask for, each as a session. A reply begins with a status; the fields
after it are read only if the device did not refuse. Nothing is asked for twice, with one
exception : a device that does not let the host leave the checksum of a script to it is
told the checksum, if it is the right one.
-/

namespace Coprocessor.Host

/-- The settings of uploads. -/
structure Uploading where
  /-- The greatest length of a piece; zero counts as one. -/
  piece : Nat := 256
  /-- The pause after a piece, in milliseconds. -/
  pause : Nat := 0
  deriving DecidableEq, Repr

/-- What a device says of itself. -/
structure Greeting where
  /-- The protocol version. -/
  version : UInt16
  /-- The capabilities. -/
  capabilities : UInt32
  deriving DecidableEq, Repr

/-- The state of a device. -/
structure Information where
  /-- Flags. -/
  flags : UInt32
  /-- The length of the code held. -/
  codeLength : UInt32
  /-- The size of the mailbox buffer. -/
  mailboxSize : UInt32
  deriving DecidableEq, Repr

namespace Call

/-- The status of a reply, and what follows it. -/
def split (c : Command) (reply : Bytes) : Except CallError (Status × Bytes) := do
  let (code, rest) ← Fields.of (do return (← Fields.signed, ← Fields.rest)) reply
  match Status.ofCode? code with
  | some status => return (status, rest)
  | none => throw (.surprise (.unknownStatus c code))

/-- Fails with the status of a device that refused. -/
def refuse (c : Command) (status : Status) : Call α := do
  report .warn s!"{c.name}: device status {status.message}"
  throw (.refused status)

/-- Sends a request, and gives what follows the status of the reply if it is not refused. -/
def call (c : Command) (payload : Bytes) (extra : Nat := 0) : Call Bytes := do
  let (status, rest) ← ofExcept (split c (← request c payload extra))
  if status = .ok then return rest else refuse c status

/-- Asks for the protocol version and the capabilities. -/
def hello : Call Greeting := do
  let fields : Fields Greeting := do
    let version ← Fields.half
    let _ ← Fields.half
    return ⟨version, ← Fields.word⟩
  ofExcept (fields.of (← call .hello []))

/-- Asks for the state of the device. -/
def info : Call Information := do
  let fields : Fields Information := return ⟨← Fields.word, ← Fields.word, ← Fields.word⟩
  ofExcept (fields.of (← call .info []))

/-- Asks for the execution state, which messages name as one byte wide. -/
def status : Call ExecState := do
  let state := Codec.tagged .u32 ExecState.code ExecState.ofCode?
  ofExcept ((Fields.value 1 state.decode).of (← call .status []))

/-- Sends the pieces of an upload, `sent` bytes having been sent. -/
def sendPieces (s : Uploading) (data : Command) : List Bytes → (sent : UInt32) → Call Unit
  | [], _ => return ()
  | piece :: pieces, sent => do
    let held ← ofExcept (Fields.word.of (← call data piece))
    let sent := sent + .ofNat piece.length
    if held ≠ sent then throw (.surprise (.otherTotal held sent))
    pause s.pause
    sendPieces s data pieces sent

/-- Announces content and sends it. -/
def upload (s : Uploading) (start data : Command) (content : Bytes) : Call Unit := do
  let _ ← call start (Codec.u32.encode (.ofNat content.length))
  sendPieces s data (content.pieces (s.piece - 1)) 0

/-- Uploads code, and gives the length that the device holds. -/
def loadCode (s : Uploading) (code : Bytes) : Call UInt32 := do
  upload s .loadBegin .loadData code
  let checksum := Checksum.crc32 code
  let length ← ofExcept (Fields.word.of (← call .loadEnd (Codec.u32.encode checksum)))
  report .debug s!"blob loaded: {length} bytes, crc {Text.hex32 checksum}"
  return length

/-- Uploads a script, and gives the length that the device holds. -/
def loadScript (s : Uploading) (script : Bytes) : Call UInt32 := do
  upload s .scriptBegin .scriptData script
  let reply ← request .scriptEnd (Codec.u32.encode Upload.trustingChecksum)
  let (status, rest) ← ofExcept (split .scriptEnd reply)
  if status ≠ .ok && status ≠ .checksum then refuse .scriptEnd status
  else
    let (length, actual) ← ofExcept (Fields.of (return (← Fields.word, ← Fields.word)) rest)
    if status = .ok then return length
    else
      let checksum := Checksum.crc32 script
      if actual ≠ checksum then
        report .warn s!"script crc: host {Text.hex32 checksum}, device {Text.hex32 actual}"
        throw (.checksum checksum actual)
      else
        report .debug s!"device ignored the crc sentinel, retrying END with {Text.hex32 actual}"
        ofExcept (Fields.word.of (← call .scriptEnd (Codec.u32.encode actual)))

/-- Runs the code, within a time limit in milliseconds or that of the device. -/
def exec (arguments : List Int32) (limit : UInt32) : Call Int32 := do
  let payload := Codec.u32.encode (.ofNat arguments.length) ++ arguments.flatMap Codec.i32.encode ++
    Codec.u32.encode limit
  ofExcept (Fields.signed.of (← call .exec payload limit.toNat))

/-- Runs the script, within a time limit in milliseconds or that of the device. -/
def scriptExec (arguments : List Int32) (limit : UInt32) (form : Arguments.Form) : Call Int32 := do
  let payload := Arguments.write arguments form ++ Codec.u32.encode limit
  ofExcept (Fields.signed.of (← call .scriptExec payload limit.toNat))

/-- Calls a function. -/
def func (name : Bytes) (arguments : List Int32) (form : Arguments.Form) : Call Int32 := do
  let payload := Codec.bytes.encode name ++ Arguments.write arguments form
  ofExcept (Fields.signed.of (← call .func payload))

/-- Reads a text from the mailbox, of some length at most. -/
def readMail (limit : UInt32) : Call Bytes := do
  let fields : Fields Bytes := do Fields.bytes (← Fields.word).toNat
  ofExcept (fields.of (← call .mailboxRead (Codec.u32.encode limit)))

/-- Asks for something that has no answer but its status. -/
def plain (c : Command) : Call Unit := do
  let _ ← call c []

/-- Asks a job to stop. -/
def cancel : Call Unit := plain .cancel

/-- Drops everything. -/
def reset : Call Unit := plain .reset

/-- Turns the programming mode on. -/
def enterProgramming : Call Unit := plain .ispEnter

/-- Turns the programming mode off. -/
def leaveProgramming : Call Unit := plain .ispExit

end Call

end Coprocessor.Host
