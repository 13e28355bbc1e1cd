import Coprocessor.Host.CallError
import Coprocessor.Wire.Codec

/-!
# Fields of replies

The fields of a reply are read one after the other. If one cannot be read the reply is
said to be too short, and the message tells how many bytes there would have to be up
to the end of the field, by the width that the reader names for it.
-/

namespace Coprocessor.Host

/-- What is left of a reply, and how many bytes were read before it. -/
structure Unread where
  /-- The number of bytes read. -/
  offset : Nat
  /-- The bytes left. -/
  rest : Bytes
  deriving DecidableEq, Repr

/-- A reader of fields. -/
abbrev Fields := StateT Unread (Except CallError)

namespace Fields

/-- The value that a decoder reads, named as `width` bytes wide. -/
def value (width : Nat) (x : Decoder α) : Fields α := fun u =>
  match x u.rest with
  | (.ok a, rest) => .ok (a, ⟨u.offset + (u.rest.length - rest.length), rest⟩)
  | (.error _, _) => .error (.short (u.offset + width) (u.offset + u.rest.length))

/-- A half word. -/
def half : Fields UInt16 := value 2 Codec.u16.decode

/-- A word. -/
def word : Fields UInt32 := value 4 Codec.u32.decode

/-- A signed word. -/
def signed : Fields Int32 := value 4 Codec.i32.decode

/-- Some bytes. -/
def bytes (n : Nat) : Fields Bytes := value n (.take n)

/-- The bytes left. -/
def rest : Fields Bytes := do
  return (← get).rest

/-- What is read from the front of a reply. -/
def of (x : Fields α) (reply : Bytes) : Except CallError α :=
  return (← x ⟨0, reply⟩).1

end Fields

end Coprocessor.Host
