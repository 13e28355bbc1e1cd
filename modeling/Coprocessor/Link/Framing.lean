import Coprocessor.Header
import Coprocessor.Link.Fault

/-!
# Writing frames

A frame goes out as its header, its payload in chunks and, if both ends agreed on
one, a second checksum. There may be pauses before the chunks, for links that are
slow : before the first one only if others follow.
-/

namespace Coprocessor

/-- How frames are written and read. -/
structure Framing where
  /-- The greatest number of payload bytes written at once; zero counts as one. -/
  chunk : Nat := 64
  /-- The pause between two chunks, in milliseconds. -/
  chunkPause : Nat := 0
  /-- The pause after the header if there is more than one chunk, in milliseconds. -/
  headerPause : Nat := 0
  /-- The greatest length of a payload that is read. -/
  maxPayload : Nat := 65536
  /-- Whether a second checksum follows the payload. -/
  trailing : Bool := false
  /-- The number of bytes of noise that are put up with before a frame. -/
  maxScan : Nat := 4096
  deriving DecidableEq, Repr

namespace Link

/-- Bytes that are written after a pause in milliseconds. -/
structure Burst where
  /-- The pause. -/
  pause : Nat
  /-- The bytes. -/
  bytes : Bytes
  deriving DecidableEq, Repr

/-- Bytes that arrive at some time, in nanoseconds. -/
structure Arrival where
  /-- The time. -/
  time : Nat
  /-- The bytes. -/
  bytes : Bytes
  deriving DecidableEq, Repr

/-- All bytes that arrive. -/
def received (arrivals : List Arrival) : Bytes :=
  arrivals.flatMap (·.bytes)

/-- The end of a link that takes bytes : how many it takes yet, if not all, and the fault
that it has after that. -/
structure Outlet where
  /-- The number of bytes taken yet. -/
  room : Option Nat := none
  /-- The fault after that. -/
  fault : Fault := .endOfStream
  deriving DecidableEq, Repr

/-- The bytes that an outlet takes from the front of a string, the outlet afterwards, and
its fault if it does not take all. -/
def Outlet.accept (o : Outlet) (s : Bytes) : Bytes × Outlet × Option Fault :=
  match o.room with
  | none => (s, o, none)
  | some n =>
    if s.length ≤ n then (s, { o with room := some (n - s.length) }, none)
    else (s.take n, { o with room := some 0 }, some o.fault)

end Link

namespace Framing

/-- A framing for slow links : the same pause after the header and between chunks. -/
def paced (chunk pause : Nat) : Framing :=
  { chunk := max 1 chunk, chunkPause := pause, headerPause := pause }

/-- The second checksum, if there is one. -/
def trailer (c : Framing) (payload : Bytes) : Bytes :=
  if c.trailing then Codec.u32.encode (Checksum.ofPayload payload) else []

/-- The bytes of a frame. -/
def frame (c : Framing) (h : Header) (payload : Bytes) : Bytes :=
  Header.codec.encode h ++ payload ++ c.trailer payload

/-- The chunks of a payload, with their pauses. -/
def chunks (c : Framing) (payload : Bytes) : List Link.Burst :=
  match Bytes.pieces (c.chunk - 1) payload with
  | [] => []
  | [only] => [⟨0, only⟩]
  | first :: rest => ⟨c.headerPause, first⟩ :: rest.map (⟨c.chunkPause, ·⟩)

/-- What is written for a frame, in order. -/
def bursts (c : Framing) (h : Header) (payload : Bytes) : List Link.Burst :=
  ⟨0, Header.codec.encode h⟩ :: c.chunks payload ++ [⟨0, c.trailer payload⟩]

/-- What is written for a frame is its bytes, whatever the chunks are. -/
theorem bytes_bursts (c : Framing) (h : Header) (payload : Bytes) :
    (c.bursts h payload).flatMap (·.bytes) = c.frame h payload := by
  have chunks : (c.chunks payload).flatMap (·.bytes) = payload := by
    have whole := Bytes.flatten_pieces (c.chunk - 1) payload
    unfold Framing.chunks
    split <;> simp_all [List.flatMap_def, List.map_map, Function.comp_def]
  simp [bursts, frame, chunks]

end Framing

end Coprocessor
