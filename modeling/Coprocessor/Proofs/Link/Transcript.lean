import Coprocessor.Proofs.Link.Bursts

/-!
# Frames one after the other

Frames that are written one after the other are so many bytes, whatever the chunks and the
pauses are (`Framing.received_volley`). Read with the same agreement about second checksums
they are all found, in order and without noise, and each leaves what follows it
(`Framing.readAll_stream`) : a payload may hold the magic or whole frames, since it is taken
in by its length, and a checksum that is wrong is remarked on and no more.
-/

namespace Coprocessor

namespace Link

/-- A frame to be written that is read where payloads have a limit. Version, command, number
and checksum are free. -/
structure Parcel (limit : Nat) where
  /-- The header. -/
  header : Header
  /-- The payload. -/
  payload : Bytes
  /-- The magic is right. -/
  magic : header.magic = Header.magicWord
  /-- The length is that of the payload. -/
  length : header.length.toNat = payload.length
  /-- The payload is within the limit. -/
  fits : payload.length ≤ limit

/-- What is odd about a frame : its checksum, if that is not the one of the payload. -/
def Parcel.oddities {limit : Nat} (p : Parcel limit) : List Oddity :=
  if p.header.checksum = Checksum.ofPayload p.payload then []
  else [.checksum p.header (Checksum.ofPayload p.payload)]

end Link

namespace Framing

open Link

variable {limit : Nat}

/-- What is written for frames, in order. -/
def volley (c : Framing) (parcels : List (Parcel limit)) : List Burst :=
  parcels.flatMap fun p => c.bursts p.header p.payload

/-- The bytes of frames, in order. -/
def stream (c : Framing) (parcels : List (Parcel limit)) : Bytes :=
  parcels.flatMap fun p => c.frame p.header p.payload

/-- What reading frames one after the other gives, up to the end of the stream. -/
def transcript (c : Framing) : List (Parcel limit) → List Reading
  | [] => [⟨.starved false, [], []⟩]
  | p :: parcels =>
    ⟨.frame ⟨p.header, p.payload, Segment.verdict c, 0⟩, c.stream parcels, p.oddities⟩ ::
      c.transcript parcels

/-- What arrives of frames does not depend on the chunks and the pauses. -/
theorem received_volley {far near : Framing} (hc : far.trailing = near.trailing) (time : Nat)
    (parcels : List (Parcel limit)) :
    received (arrivals time (far.volley parcels)) = near.stream parcels := by
  simp only [received_arrivals, volley, stream, List.flatMap_assoc, bytes_bursts,
    frame_congr hc]

/-- A frame is taken in by its lengths, whatever its payload holds and whatever follows. -/
theorem readBody_append (c : Framing) (p : Parcel limit) (rest : Bytes) :
    c.readBody 0 p.header (p.payload ++ (c.trailer p.payload ++ rest)) =
      ⟨.frame ⟨p.header, p.payload, Segment.verdict c, 0⟩, rest, p.oddities⟩ := by
  have hsplit : Bytes.splitAt? p.header.length.toNat
      (p.payload ++ (c.trailer p.payload ++ rest)) =
        some (p.payload, c.trailer p.payload ++ rest) := by
    rw [p.length, Bytes.splitAt?_append]
  simp only [readBody, hsplit, if_true, List.append_nil]
  by_cases ht : c.trailing = true
  · simp [trailer, Segment.verdict, Parcel.oddities, ht, Codec.u32_lossless.faithful]
  · simp [trailer, Segment.verdict, Parcel.oddities, ht]

/-- The frame at the front of a string is read, and what follows it is left. -/
theorem read_append (c : Framing) (p : Parcel c.maxPayload) (rest : Bytes) :
    c.read (c.frame p.header p.payload ++ rest) =
      ⟨.frame ⟨p.header, p.payload, Segment.verdict c, 0⟩, rest, p.oddities⟩ := by
  have hfits : p.header.length.toNat ≤ c.maxPayload := by
    rw [p.length]
    exact p.fits
  rw [read, frame, List.append_assoc, List.append_assoc, scan_of_header c 0 0 _ p.magic,
    if_pos hfits, readBody_append]

theorem readAll_of_frame {c : Framing} {s : Bytes} {f : Frame}
    (h : (c.read s).finding = .frame f) : c.readAll s = c.read s :: c.readAll (c.read s).rest := by
  rw [readAll]
  split <;> simp_all

/-- Frames are read as they were written. -/
theorem readAll_stream (c : Framing) (parcels : List (Parcel c.maxPayload)) :
    c.readAll (c.stream parcels) = c.transcript parcels := by
  induction parcels with
  | nil =>
    rw [stream, List.flatMap_nil, readAll]
    rfl
  | cons p parcels ih =>
    have hread := c.read_append p (c.stream parcels)
    have hstream : c.stream (p :: parcels) =
        c.frame p.header p.payload ++ c.stream parcels := List.flatMap_cons
    rw [hstream, readAll_of_frame (by rw [hread]), hread, ih]
    rfl

/-- A reading in a transcript is of a frame of the list, or the last one. -/
theorem eq_of_mem_transcript {c : Framing} {parcels : List (Parcel limit)} {r : Reading}
    {f : Frame} (hr : r ∈ c.transcript parcels) (hf : r.finding = .frame f) :
    ∃ p ∈ parcels, f = ⟨p.header, p.payload, Segment.verdict c, 0⟩ ∧ r.oddities = p.oddities := by
  induction parcels with
  | nil =>
    obtain rfl := List.mem_singleton.mp hr
    cases hf
  | cons p parcels ih =>
    rcases List.mem_cons.mp hr with rfl | hr
    · cases hf
      exact ⟨p, List.mem_cons_self, rfl, rfl⟩
    · obtain ⟨q, hq, h⟩ := ih hr
      exact ⟨q, List.mem_cons_of_mem _ hq, h⟩

/-! ## From one end to the other -/

/-- What holds of frames that are written by `far` and read by `near`. -/
structure Conveyed (far near : Framing) (parcels : List (Parcel near.maxPayload)) : Prop where
  /-- What arrives does not depend on the chunks, the pauses and the time. -/
  arrived : ∀ far' : Framing, far'.trailing = far.trailing → ∀ time time',
    received (arrivals time' (far'.volley parcels)) = received (arrivals time (far.volley parcels))
  /-- The frames are read in order, each without noise and with nothing left over but the
  frames after it, and nothing is left over at the end. -/
  read : ∀ time,
    near.readAll (received (arrivals time (far.volley parcels))) = near.transcript parcels
  /-- A header that is read vouches for its payload if it has the checksum of the payload, and
  otherwise that is remarked on. -/
  vouched : ∀ time, ∀ r ∈ near.readAll (received (arrivals time (far.volley parcels))), ∀ f,
    r.finding = .frame f →
      (f.header.vouchesFor f.payload = true ↔
        f.header.checksum = Checksum.ofPayload f.payload) ∧
      (f.header.vouchesFor f.payload = true ↔ r.oddities = [])

/-- Frames are read as they were written, whatever the chunks and the pauses were, if both ends
agree about second checksums. -/
theorem conveyed {far near : Framing} (ha : far.trailing = near.trailing)
    (parcels : List (Parcel near.maxPayload)) : Conveyed far near parcels where
  arrived far' ha' time time' := by
    rw [received_volley (ha'.trans ha), received_volley ha]
  read time := by
    rw [received_volley ha, readAll_stream]
  vouched time r hr f hf := by
    rw [received_volley ha, readAll_stream] at hr
    obtain ⟨p, -, rfl, ho⟩ := eq_of_mem_transcript hr hf
    rw [ho, Parcel.oddities, Header.vouchesFor, beq_iff_eq]
    simp

/-- A frame whose payload is the magic, with a checksum that is wrong. -/
def magicParcel : Parcel 8 where
  header := ⟨Header.magicWord, 7, 0xFFFF, 0xFFFFFFFF, 4, 0⟩
  payload := Codec.u32.encode Header.magicWord
  magic := rfl
  length := rfl
  fits := by decide

/-- A frame without a payload. -/
def bareParcel : Parcel 8 where
  header := ⟨Header.magicWord, 1, 2, 3, 0, 0⟩
  payload := []
  magic := rfl
  length := rfl
  fits := by decide

/-- Three frames, written byte by byte with pauses and read with a second checksum. -/
theorem conveyed_magic :
    ({ chunk := 0, chunkPause := 2, headerPause := 3, trailing := true } : Framing).trailing =
        ({ maxPayload := 8, trailing := true } : Framing).trailing ∧
      (({ maxPayload := 8, trailing := true } : Framing).readAll (received (arrivals 5
        (({ chunk := 0, chunkPause := 2, headerPause := 3, trailing := true } : Framing).volley
          [magicParcel, bareParcel, magicParcel])))).map (·.finding) =
        [.frame ⟨magicParcel.header, [0x43, 0x50, 0x52, 0x30], some true, 0⟩,
          .frame ⟨bareParcel.header, [], some true, 0⟩,
          .frame ⟨magicParcel.header, [0x43, 0x50, 0x52, 0x30], some true, 0⟩,
          .starved false] := by
  refine ⟨rfl, ?_⟩
  rw [(@conveyed { chunk := 0, chunkPause := 2, headerPause := 3, trailing := true }
    { maxPayload := 8, trailing := true } rfl [magicParcel, bareParcel, magicParcel]).read 5]
  rfl

end Framing

end Coprocessor
