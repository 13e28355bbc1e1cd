import Coprocessor.Wire.Codec

/-!
# Notes

A note of a tune has a number and a duration. Number zero is a rest; number 69
sounds at 440 Hz, and twelve numbers make an octave. A note sounds as a square
wave, of which half a period is a whole number of microseconds. Frequencies are
irrational, so both are rounded from an exact comparison of twelfth powers.
-/

namespace Coprocessor

/-- A note. -/
structure Note where
  /-- The number of semitones, zero for a rest. -/
  pitch : UInt8
  /-- A byte without meaning. -/
  reserved : UInt8
  /-- A half word without meaning. -/
  reservedHalf : UInt16
  /-- The duration in microseconds. -/
  duration : UInt32
  deriving DecidableEq, Repr

namespace Note

/-- The number of bytes of a note. -/
def size : Nat := 8

/-- The byte form : the fields in order. -/
def codec : Codec Note :=
  Codec.iso
    (fun (pitch, reserved, reservedHalf, duration) => ⟨pitch, reserved, reservedHalf, duration⟩)
    (fun n => (n.pitch, n.reserved, n.reservedHalf, n.duration))
    (.pair .u8 <| .pair .u8 <| .pair .u16 .u32)

/-- Whether nothing sounds. -/
def isRest (n : Note) : Bool :=
  n.pitch == 0

/-! ## Pitch -/

/-- The root found so far, made greater by `2 ^ bit` for each of the lower `bits`
where its twelfth power stays within `n`. -/
def twelfthRootFrom (n : Nat) : Nat → Nat → Nat
  | 0, root => root
  | bit + 1, root =>
    let greater := root + Nat.pow 2 bit
    twelfthRootFrom n bit (if Nat.pow greater 12 ≤ n then greater else root)

/-- The greatest number whose twelfth power is at most `n`. -/
def twelfthRoot (n : Nat) : Nat :=
  twelfthRootFrom n (n.log2 / 12 + 1) 0

/-- The nearest number to half of a twelfth root. -/
def halfTwelfthRoot (n : Nat) : Nat :=
  (twelfthRoot n + 1) / 2

/-- The frequency of a pitch in microhertz, to the nearest :
`440000000 * 2 ^ ((pitch - 69) / 12)`. -/
def frequencyMicro (pitch : UInt8) : Nat :=
  halfTwelfthRoot (Nat.pow 880000000 12 * Nat.pow 2 pitch.toNat / Nat.pow 2 69)

/-- Half a period of a pitch in microseconds, to the nearest and at least one. -/
def halfPeriod (pitch : UInt8) : Nat :=
  max 1 <| halfTwelfthRoot <|
    Nat.pow 1000000 12 * Nat.pow 2 69 / (Nat.pow 440 12 * Nat.pow 2 pitch.toNat)

end Note

end Coprocessor
