import Coprocessor.SystemError
import Coprocessor.Tune.Note

/-!
# Tunes

A tune is a list of notes for a buzzer, with a lamp that may shine while a note
sounds, and a pause after each note. Its byte form is a header of 24 bytes and
eight bytes for each note. Reading looks at the length of the header first, then
at the magic, the version and the length of the whole; what comes after the last
note does not count.
-/

namespace Coprocessor

/-- A tune. -/
structure Tune where
  /-- The flag bits. -/
  flags : UInt16
  /-- The pin of the buzzer. -/
  buzzer : UInt32
  /-- The pin of the lamp. -/
  lamp : UInt32
  /-- The pause after each note in milliseconds. -/
  gap : UInt32
  /-- The notes. -/
  notes : List Note
  deriving DecidableEq, Repr

/-- Why bytes are no tune. -/
inductive TuneError where
  /-- The file could not be read. -/
  | unreadable (cause : SystemError)
  /-- The magic is another one. -/
  | badMagic (magic : Bytes)
  /-- The version is another one. -/
  | unsupportedVersion (version : UInt8)
  /-- There are fewer bytes than needed. -/
  | truncated (needed present : Nat)
  deriving DecidableEq, Repr

/-- The text in messages. -/
def TuneError.message : TuneError → String
  | unreadable cause => s!"i/o error: {cause.message}"
  | badMagic magic =>
    "bad magic [" ++ ", ".intercalate (magic.map fun b => toString b.toNat) ++ "]"
  | unsupportedVersion version => s!"unsupported version {version.toNat}"
  | truncated needed present => s!"truncated: need {needed} bytes, have {present}"

namespace Tune

/-- The magic, `CPLM`. -/
def magic : Bytes := [0x43, 0x50, 0x4C, 0x4D]

/-- The version written here. -/
def version : UInt8 := 1

/-- The number of bytes of the header. -/
def headerSize : Nat := 24

/-- The flag of a lamp that shines while a note sounds. -/
def lampFlag : UInt16 := 1

/-- Whether the lamp shines while a note sounds. -/
def hasLamp (t : Tune) : Bool :=
  t.flags &&& lampFlag ≠ 0

/-- The error that a reading error amounts to. -/
def cutShort (_ : DecodeError) : TuneError :=
  .truncated headerSize 0

/-! ## The byte form -/

/-- The fields of the header. -/
structure Head where
  /-- The magic. -/
  magic : Bytes
  /-- The version. -/
  version : UInt8
  /-- The flag bits. -/
  flags : UInt16
  /-- The pin of the buzzer. -/
  buzzer : UInt32
  /-- The pin of the lamp. -/
  lamp : UInt32
  /-- The pause after each note in milliseconds. -/
  gap : UInt32
  /-- The number of notes. -/
  count : UInt32
  deriving DecidableEq, Repr

/-- The bytes of a header, the byte after the version being zero. -/
def Head.write (h : Head) : Bytes :=
  h.magic ++ Codec.u8.encode h.version ++ Codec.u8.encode 0 ++ Codec.u16.encode h.flags ++
    Codec.u32.encode h.buzzer ++ Codec.u32.encode h.lamp ++ Codec.u32.encode h.gap ++
    Codec.u32.encode h.count

/-- Reads a header, whatever the byte after the version is. -/
def Head.read : Decoder Head := do
  let magic ← Decoder.take 4
  let version ← Codec.u8.decode
  let _ ← Codec.u8.decode
  let flags ← Codec.u16.decode
  let buzzer ← Codec.u32.decode
  let lamp ← Codec.u32.decode
  let gap ← Codec.u32.decode
  let count ← Codec.u32.decode
  return ⟨magic, version, flags, buzzer, lamp, gap, count⟩

/-- The byte form of a tune. -/
def write (t : Tune) : Bytes :=
  Head.write ⟨magic, version, t.flags, t.buzzer, t.lamp, t.gap, .ofNat t.notes.length⟩ ++
    t.notes.flatMap Note.codec.encode

/-- The tune that begins a string of bytes. -/
def read (data : Bytes) : Except TuneError Tune :=
  if data.length < headerSize then .error (.truncated headerSize data.length)
  else match Head.read data with
    | (.error e, _) => .error (cutShort e)
    | (.ok head, rest) =>
      let needed := headerSize + Note.size * head.count.toNat
      if head.magic ≠ magic then .error (.badMagic head.magic)
      else if head.version ≠ version then .error (.unsupportedVersion head.version)
      else if data.length < needed then .error (.truncated needed data.length)
      else match (Note.codec.decode.many head.count.toNat rest).1 with
        | .error e => .error (cutShort e)
        | .ok notes => .ok ⟨head.flags, head.buzzer, head.lamp, head.gap, notes⟩

/-! ## Time -/

/-- The playing time with all pauses, in microseconds, as a 64 bit sum. -/
def duration (t : Tune) : UInt64 :=
  t.notes.foldl (fun total n => total + (n.duration.toUInt64 + t.gap.toUInt64 * 1000)) 0

/-- The time in milliseconds that a run of the tune may take : the playing time and
one second, as far as 32 bits go. -/
def budget (t : Tune) : UInt32 :=
  .ofNat (min 0xFFFFFFFF (t.duration.toNat / 1000 + 1000))

end Tune

end Coprocessor
