import Coprocessor.Command
import Coprocessor.Checksum
import Coprocessor.Wire.Codec

/-!
# Frame headers

A frame is a header of twenty bytes and a payload. The header names the command,
numbers the request, and gives the length and the checksum of the payload. A
reply carries the command of its request with the reply bit and the same number.
-/

namespace Coprocessor

/-- The header of a frame. -/
structure Header where
  /-- The word that every frame begins with. -/
  magic : UInt32
  /-- The protocol version. -/
  version : UInt16
  /-- The command code, with the reply bit in a reply. -/
  command : UInt16
  /-- The number of the request. -/
  sequence : UInt32
  /-- The length of the payload. -/
  length : UInt32
  /-- The checksum of the payload. -/
  checksum : UInt32
  deriving DecidableEq, Repr

namespace Header

/-- The word that every frame begins with, `CPR0` on the wire. -/
def magicWord : UInt32 := 0x30525043

/-- The protocol version spoken here. -/
def protocol : UInt16 := 1

/-- The number of bytes of a header. -/
def size : Nat := 20

/-- The byte form : the fields in order. -/
def codec : Codec Header :=
  Codec.iso
    (fun (magic, version, command, sequence, length, checksum) =>
      ⟨magic, version, command, sequence, length, checksum⟩)
    (fun h => (h.magic, h.version, h.command, h.sequence, h.length, h.checksum))
    (.pair .u32 <| .pair .u16 <| .pair .u16 <| .pair .u32 <| .pair .u32 .u32)

/-- A header takes its size. -/
theorem takes_codec : codec.decode.Takes size :=
  Decoder.Takes.bind
    (Codec.takes_pair (Codec.takes_word _ _ _) <| Codec.takes_pair (Codec.takes_word _ _ _) <|
      Codec.takes_pair (Codec.takes_word _ _ _) <| Codec.takes_pair (Codec.takes_word _ _ _) <|
      Codec.takes_pair (Codec.takes_word _ _ _) (Codec.takes_word _ _ _))
    fun _ => Decoder.takes_pure _

/-- A header with the magic and version spoken here that vouches for `payload`. -/
def vouching (command : UInt16) (sequence : UInt32) (payload : Bytes) : Header where
  magic := magicWord
  version := protocol
  command := command
  sequence := sequence
  length := .ofNat payload.length
  checksum := Checksum.ofPayload payload

/-- The header of a request. -/
def request (command : Command) (sequence : UInt32) (payload : Bytes) : Header :=
  vouching command.code sequence payload

/-- The header of a reply, with the length and the checksum given. -/
def replyWith (command : UInt16) (sequence length checksum : UInt32) : Header :=
  ⟨magicWord, protocol, command ||| Command.replyBit, sequence, length, checksum⟩

/-- The header of the reply to a request. -/
def reply (request : Header) (payload : Bytes) : Header :=
  vouching (request.command ||| Command.replyBit) request.sequence payload

/-- Whether the reply bit is set. -/
def isReply (h : Header) : Bool :=
  h.command &&& Command.replyBit ≠ 0

/-- The command code without the reply bit. -/
def baseCommand (h : Header) : UInt16 :=
  h.command &&& ~~~Command.replyBit

/-- The command of a frame spoken here : the magic is looked at first, then the
version, then the command code. -/
def validate (h : Header) : Except Status Command :=
  if h.magic ≠ magicWord then .error .badMagic
  else if h.version ≠ protocol then .error .badVersion
  else match Command.ofCode? h.baseCommand with
    | some command => .ok command
    | none => .error .badCommand

/-- A request is of its command. -/
theorem validate_request (command : Command) (sequence : UInt32) (payload : Bytes) :
    (request command sequence payload).validate = .ok command := by
  simp only [validate, request, vouching, baseCommand, Command.code_and_not_replyBit,
    Command.ofCode?_code, ne_eq, not_true_eq_false, if_false]

/-- Whether the frame replies to a request of this command. -/
def answers (h : Header) (command : Command) : Bool :=
  h.isReply && h.baseCommand == command.code

/-- Whether the checksum is that of the payload. -/
def vouchesFor (h : Header) (payload : Bytes) : Bool :=
  h.checksum == Checksum.ofPayload payload

end Header

end Coprocessor
