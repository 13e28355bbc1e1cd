import Coprocessor.Link.Framing
import Coprocessor.Log

/-!
# Reading frames

A frame is found in a stream by the magic word that it begins with. What comes
before the magic is noise, and so is a magic that is followed by a length over the
limit : the search then goes on one byte later. Too much noise is given up on, and
the next reading begins after the bytes looked at. `Framing.read` takes a string of
bytes and says what is found, what is left, and what there is to remark.

When noise is given up on, four bytes at least are gone, and as many more as had
been taken in behind a magic that turned out to be noise.
-/

namespace Coprocessor

namespace Link

/-- A frame that was read. -/
structure Frame where
  /-- The header. -/
  header : Header
  /-- The payload. -/
  payload : Bytes
  /-- Whether the second checksum is that of the payload, if there is one. -/
  verdict : Option Bool
  /-- The number of bytes of noise before it. -/
  skipped : Nat
  deriving DecidableEq, Repr

/-- Whether one of the checksums is that of the payload. -/
def Frame.isIntact (f : Frame) : Bool :=
  f.header.vouchesFor f.payload || f.verdict = some true

/-- Something odd about what was read. -/
inductive Oddity where
  /-- A magic is followed by a length over the limit. -/
  | tooLong (length : UInt32) (limit : Nat)
  /-- The checksum in the header is not that of the payload. -/
  | checksum (h : Header) (actual : UInt32)
  /-- The second checksum is not that of the payload. -/
  | trailer (sequence word : UInt32)
  /-- There was noise before a frame. -/
  | noise (skipped : Nat) (sequence : UInt32)
  deriving DecidableEq, Repr

/-- The entry in the log. -/
def Oddity.entry : Oddity → Log.Entry
  | tooLong length limit => ⟨.debug,
      s!"ignoring magic with length {length} over the limit of {limit}, rescanning"⟩
  | checksum h actual => ⟨.warn,
      s!"frame cmd={Text.hex16 h.command} seq={h.sequence}: header crc {Text.hex32 h.checksum}, " ++
        s!"payload crc {Text.hex32 actual}"⟩
  | trailer sequence word => ⟨.warn,
      s!"frame seq={sequence}: trailing crc {Text.hex32 word} does not match"⟩
  | noise skipped sequence => ⟨.debug,
      s!"skipped {skipped} noise bytes before frame seq={sequence}"⟩

/-- What is found in a string of bytes. -/
inductive Finding where
  /-- A frame. -/
  | frame (f : Frame)
  /-- Too much noise. -/
  | noise
  /-- Not all of a frame, and it ends in the middle of noise or not. -/
  | starved (inNoise : Bool)
  deriving DecidableEq, Repr

/-- What comes of reading a string of bytes. -/
structure Reading where
  /-- What is found. -/
  finding : Finding
  /-- The bytes left. -/
  rest : Bytes
  /-- What is odd, in order. -/
  oddities : List Oddity
  deriving DecidableEq, Repr

/-- A reading with something odd before it. -/
def Reading.after (o : Oddity) (r : Reading) : Reading :=
  { r with oddities := o :: r.oddities }

/-- The entries in the log. -/
def Reading.entries (r : Reading) : List Log.Entry :=
  r.oddities.map Oddity.entry

end Link

namespace Framing

open Link

/-- Whether bytes begin with the magic. -/
def beginsFrame (s : Bytes) : Bool :=
  s.take 4 == Codec.u32.encode Header.magicWord

/-- Reads on after a header. -/
def readBody (c : Framing) (skipped : Nat) (h : Header) (s : Bytes) : Reading :=
  match Bytes.splitAt? h.length.toNat s with
  | none => ⟨.starved false, [], []⟩
  | some (payload, s) =>
    let actual := Checksum.ofPayload payload
    let wrong := if h.checksum = actual then [] else [.checksum h actual]
    let noise := if skipped = 0 then [] else [.noise skipped h.sequence]
    if c.trailing then
      match Codec.u32.decode s with
      | (.error _, _) => ⟨.starved false, [], wrong⟩
      | (.ok word, s) =>
        let mismatch := if word = actual then [] else [.trailer h.sequence word]
        ⟨.frame ⟨h, payload, some (word == actual), skipped⟩, s, wrong ++ mismatch ++ noise⟩
    else ⟨.frame ⟨h, payload, none, skipped⟩, s, wrong ++ noise⟩

/-- Looks for a frame after `skipped` bytes of noise. The first `ahead` bytes had been
taken in before. -/
def scan (c : Framing) (ahead skipped : Nat) : Bytes → Reading
  | [] => ⟨.starved (skipped ≠ 0), [], []⟩
  | b :: s =>
    if (s.take 3).length < 3 then ⟨.starved (skipped ≠ 0), [], []⟩
    else if beginsFrame (b :: s) then
      match Header.codec.decode (b :: s) with
      | (.error _, _) => ⟨.starved false, [], []⟩
      | (.ok h, body) =>
        if h.length.toNat ≤ c.maxPayload then c.readBody skipped h body
        else (scan c (Header.size - 1) (skipped + 1) s).after (.tooLong h.length c.maxPayload)
    else if c.maxScan ≤ skipped then ⟨.noise, (b :: s).drop (max ahead 4), []⟩
    else scan c (ahead - 1) (skipped + 1) s

/-- Reads a frame. -/
def read (c : Framing) (s : Bytes) : Reading :=
  c.scan 0 0 s

/-! ## What is left -/

/-- What follows a frame is no longer than what follows its header. -/
theorem length_readBody (c : Framing) (skipped : Nat) (h : Header) (s : Bytes) :
    (c.readBody skipped h s).rest.length ≤ s.length := by
  simp only [readBody]
  split
  · simp
  · rename_i payload rest split
    have hrest : rest.length ≤ s.length := by
      simp only [Bytes.splitAt?] at split
      split at split <;> simp_all
      simp [← split.2]
    split
    · split
      · simp
      · rename_i e
        have := Codec.takes_word 4 UInt32.toNat UInt32.ofNat _ _ _ e
        simp only
        omega
    · exact hrest

/-- A reading that finds something has used some bytes. -/
theorem length_scan (c : Framing) (ahead skipped : Nat) (s : Bytes) :
    (∃ x, (c.scan ahead skipped s).finding = .starved x) ∨
      (c.scan ahead skipped s).rest.length < s.length := by
  induction s generalizing ahead skipped with
  | nil => exact .inl ⟨_, rfl⟩
  | cons b s ih =>
    simp only [scan]
    split
    · exact .inl ⟨_, rfl⟩
    split
    · split
      · exact .inl ⟨_, rfl⟩
      · rename_i h body e
        have taken := Header.takes_codec _ _ _ e
        split
        · have := length_readBody c skipped h body
          simp only [Header.size] at taken
          exact .inr (by omega)
        · refine (ih _ _).imp (fun ⟨x, h⟩ => ⟨x, h⟩) fun h => ?_
          simp only [Reading.after, List.length_cons]
          omega
    split
    · right
      simp only [List.length_drop, List.length_cons]
      omega
    · refine (ih _ _).imp_right fun h => ?_
      simp only [List.length_cons]
      omega

/-- A frame that is read leaves less than there was. -/
theorem length_read_of_frame {c : Framing} {s : Bytes} {f : Frame}
    (h : (c.read s).finding = .frame f) : (c.read s).rest.length < s.length :=
  (length_scan c 0 0 s).resolve_left fun ⟨_, h'⟩ => by simp [read] at h; simp [h] at h'

/-- Noise that is given up on leaves less than there was. -/
theorem length_read_of_noise {c : Framing} {s : Bytes} (h : (c.read s).finding = .noise) :
    (c.read s).rest.length < s.length :=
  (length_scan c 0 0 s).resolve_left fun ⟨_, h'⟩ => by simp [read] at h; simp [h] at h'

/-- What is found in a string of bytes, reading by reading, up to the one that finds too
few bytes. -/
def readAll (c : Framing) (s : Bytes) : List Reading :=
  match _h : (c.read s).finding with
  | .starved _ => [c.read s]
  | .frame _ => c.read s :: readAll c (c.read s).rest
  | .noise => c.read s :: readAll c (c.read s).rest
termination_by s.length
decreasing_by
  · exact length_read_of_frame ‹_›
  · exact length_read_of_noise ‹_›

end Framing

end Coprocessor
