import Coprocessor.Host.CallError
import Coprocessor.Link.Reading

/-!
# Exchanges

Requests are numbered. The reply to a request has its number; what has an earlier
number comes late and is dropped, up to the overflow of the numbers.
-/

namespace Coprocessor.Host

open Link

/-- What a host does with bytes and time. -/
structure Settings where
  /-- The time for a request and its reply, in milliseconds. -/
  timeout : Nat := 2000
  /-- Whether a reply whose payload no checksum vouches for is refused. -/
  strict : Bool := false
  /-- The framing. -/
  framing : Framing := {}
  deriving DecidableEq, Repr

/-- Whether a number was given to a request before the present one. -/
def isEarlier (sequence present : UInt32) : Bool :=
  0 < (present - sequence).toInt32

/-- What is found when the replies to earlier requests are dropped. -/
structure Awaited where
  /-- What is found. -/
  finding : Finding
  /-- The bytes left. -/
  rest : Bytes
  /-- The entries in the log. -/
  entries : List Log.Entry

/-- The entry on a reply that comes late. -/
def lateEntry (c : Command) (sequence : UInt32) (h : Header) : Log.Entry :=
  ⟨.debug, s!"{c.name} seq={sequence}: dropping late response cmd={Text.hex16 h.command} " ++
    s!"seq={h.sequence}"⟩

/-- Looks for the reply to a request in a string of bytes. -/
def awaitReply (framing : Framing) (c : Command) (sequence : UInt32) (s : Bytes) : Awaited :=
  let r := framing.read s
  match _h : r.finding with
  | .frame f =>
    if isEarlier f.header.sequence sequence then
      let w := awaitReply framing c sequence r.rest
      { w with entries := r.entries ++ lateEntry c sequence f.header :: w.entries }
    else ⟨.frame f, r.rest, r.entries⟩
  | finding => ⟨finding, r.rest, r.entries⟩
termination_by s.length
decreasing_by exact Framing.length_read_of_frame ‹_›

/-- The payload of a reply, with an entry in the log if it is not accepted. -/
def accept (strict : Bool) (c : Command) (sequence : UInt32) (f : Frame) :
    Except CallError Bytes × Option Log.Entry :=
  let h := f.header
  if !h.answers c || h.sequence ≠ sequence then
    (.error (.surprise (.otherFrame c.replyCode sequence h.command h.sequence)),
      some ⟨.warn,
        s!"{c.name} seq={sequence}: got cmd={Text.hex16 h.command} seq={h.sequence}"⟩)
  else if strict && !f.isIntact then
    (.error (.checksum h.checksum (Checksum.crc32 f.payload)),
      some ⟨.warn, s!"{c.name} seq={sequence}: response failed crc"⟩)
  else (.ok f.payload, none)

end Coprocessor.Host
