import Coprocessor.Device
import Coprocessor.Log

/-!
# Frames and the journal

A frame is refused before its command is looked at if its header is no good, or if no
checksum is that of its payload. Any other frame is answered. The reply has the
number of the request.

What happens to jobs, and what is said to commands, goes into the log : the remarks
on jobs first, and then an entry on the reply if there is something to tell.
-/

namespace Coprocessor.Device

variable {σ τ : Type}

/-- Why a frame is refused before its command is looked at. -/
inductive Refusal where
  /-- The header is no good. -/
  | header (status : Status)
  /-- No checksum is that of the payload. -/
  | payload (c : Command)
  deriving DecidableEq, Repr

/-- The status in the reply to a frame that is refused. -/
def Refusal.status : Refusal → Status
  | header status => status
  | payload _ => .checksum

/-- The command of a frame that is not refused. `verdict` tells whether the second
checksum is that of the payload, if there is one. -/
def screen (h : Header) (payload : Bytes) (verdict : Option Bool) : Except Refusal Command :=
  match h.validate with
  | .error status => .error (.header status)
  | .ok command =>
    if h.vouchesFor payload || verdict = some true then .ok command
    else .error (.payload command)

/-- What is said to a frame. -/
abbrev Response := Except Refusal (Command × Except Status Reply)

/-- What the device says to a frame. -/
def respond (h : Header) (payload : Bytes) (verdict : Option Bool) (d : Device σ τ) :
    Response × Device σ τ :=
  match screen h payload verdict with
  | .error refusal => (.error refusal, d)
  | .ok command =>
    let (reply, d) := d.answer command payload
    (.ok (command, reply), d)

/-- The payload of a reply. -/
def Response.payload : Response → Bytes
  | .error refusal => Reply.statusBytes refusal.status
  | .ok (command, reply) => Reply.payloadOf command reply

/-- The frame of a reply. -/
def Response.frame (h : Header) (r : Response) : Header × Bytes :=
  (Header.reply h r.payload, r.payload)

/-- The reply to a frame. -/
def handleFrame (h : Header) (payload : Bytes) (verdict : Option Bool) (d : Device σ τ) :
    (Header × Bytes) × Device σ τ :=
  let (response, d) := d.respond h payload verdict
  (response.frame h, d)

/-! ## The journal -/

/-- What an upload is called in the log. -/
def uploadName : Upload.Kind → String
  | .code => "blob"
  | .script => "script"

/-- The entry on what is said to a command, if there is something to tell. -/
def entry? (c : Command) : Except Status Reply → Option Log.Entry
  | .error status => some ⟨.debug, s!"{c.name} -> {status.message}"⟩
  | .ok (.reserved kind total) => some ⟨.debug, s!"{uploadName kind} begin: {total} bytes"⟩
  | .ok (.receipt r) =>
    if r.status = .ok then none else some ⟨.warn, s!"load data truncated at {r.total} bytes"⟩
  | .ok (.verdict kind v expected) =>
    if v.status = .ok then none
    else match kind with
      | .code => some ⟨.warn,
          s!"blob end: {v.status.message} (device crc {Text.hex32 v.checksum}, " ++
            s!"host {Text.hex32 expected})"⟩
      | .script => some ⟨.warn, s!"script end: {v.status.message} after {v.length} bytes"⟩
  | .ok (.codeValue value) => some ⟨.debug, s!"exec returned {value}"⟩
  | .ok .cleared => some ⟨.debug, "device reset"⟩
  | .ok _ => none

/-- The entry on a frame that is refused. -/
def Refusal.entry (h : Header) : Refusal → Log.Entry
  | header status => ⟨.warn,
      s!"rejecting frame cmd={Text.hex16 h.command} seq={h.sequence}: {status.message}"⟩
  | payload c => ⟨.warn, s!"{c.name} seq={h.sequence}: no checksum matches the payload"⟩

/-- The entry on what is said to a frame, if there is something to tell. -/
def Response.entry? (h : Header) : Response → Option Log.Entry
  | .error refusal => some (refusal.entry h)
  | .ok (command, reply) => Device.entry? command reply

/-- The entries on what happened to jobs, in order, and the device without them. -/
def takeEntries (d : Device σ τ) : List Log.Entry × Device σ τ :=
  (d.station.remarks.reverse.map (·.entry), { d with station := { d.station with remarks := [] } })

end Coprocessor.Device
