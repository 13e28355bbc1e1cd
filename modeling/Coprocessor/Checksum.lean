import Coprocessor.Bytes

/-!
# The frame checksum

CRC-32 over bytes, least significant bit first, with the polynomial `0xEDB88320`
and a final complement. The register after the bytes so far is all that is
needed to go on, so the checksum of a whole is the checksum of its parts taken
one after the other (`Checksum.register_append`).
-/

namespace Coprocessor

namespace Checksum

/-- The division polynomial, least significant bit first. -/
def polynomial : UInt32 := 0xEDB88320

/-- The register before the first byte. -/
def seed : UInt32 := 0xFFFFFFFF

/-- One step of the division : shift out a bit, subtract the polynomial if it was set. -/
def divideBit (r : UInt32) : UInt32 :=
  if r &&& 1 = 1 then (r >>> 1) ^^^ polynomial else r >>> 1

/-- The register after one more byte. -/
def absorb (r : UInt32) (b : UInt8) : UInt32 :=
  let r := r ^^^ b.toUInt32
  divideBit <| divideBit <| divideBit <| divideBit <|
    divideBit <| divideBit <| divideBit <| divideBit r

/-- The register after the bytes of `data`. -/
def register (r : UInt32) (data : Bytes) : UInt32 :=
  data.foldl absorb r

theorem register_append (r : UInt32) (a b : Bytes) :
    register r (a ++ b) = register (register r a) b :=
  List.foldl_append

/-- The checksum of `data` from the register `r`. -/
def crc32From (r : UInt32) (data : Bytes) : UInt32 :=
  ~~~register r data

/-- The checksum of `data`. -/
def crc32 (data : Bytes) : UInt32 :=
  crc32From seed data

/-- The checksum field of a frame that carries `payload` : zero for an empty one. -/
def ofPayload (payload : Bytes) : UInt32 :=
  if payload.isEmpty then 0 else crc32 payload

/-! ## Chunk by chunk -/

/-- A checksum taken over chunks as they come. -/
structure Rolling where
  /-- The register after the chunks so far. -/
  held : UInt32 := seed
  deriving DecidableEq, Repr

namespace Rolling

/-- Nothing taken in yet. -/
def empty : Rolling := {}

/-- The state after one more chunk. -/
def update (c : Rolling) (chunk : Bytes) : Rolling :=
  ⟨register c.held chunk⟩

/-- The checksum of the chunks so far. -/
def value (c : Rolling) : UInt32 :=
  ~~~c.held

/-- The checksum of chunks is that of their concatenation. -/
theorem value_foldl_update (chunks : List Bytes) :
    (chunks.foldl update empty).value = crc32 chunks.flatten := by
  suffices h : ∀ c : Rolling, (chunks.foldl update c).held = register c.held chunks.flatten by
    simp [value, crc32, crc32From, h, empty]
  induction chunks with
  | nil => intro c; rfl
  | cons a rest ih =>
    intro c
    simp [ih, update, register_append]

end Rolling

end Checksum

end Coprocessor
