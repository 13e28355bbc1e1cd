import Coprocessor.Numeral
import Coprocessor.Wire.Codec

/-!
# Argument sections

The arguments of a call are 32 bit integers, sent either as words or as decimal
numerals. The section begins with their number. A section of numerals goes on
with a marker word, which a section of words has in the place of its first
argument; so a first argument that equals the marker is never sent as a word
(`Arguments.formFor`).
-/

namespace Coprocessor

namespace Arguments

/-- The form in which arguments are sent. -/
inductive Form where
  /-- Words. -/
  | binary
  /-- Decimal numerals. -/
  | ascii
  deriving DecidableEq, Repr

end Arguments

/-- Arguments, and the form they came in. -/
structure Arguments where
  /-- The form they came in. -/
  form : Arguments.Form
  /-- The values, the first one first. -/
  values : List Int32
  deriving DecidableEq, Repr

namespace Arguments

/-- The word that a section of numerals goes on with. -/
def marker : UInt32 := 0xFFFFFFFF

/-- The greatest number of arguments that is read. -/
def maxCount : Nat := 64

/-- The greatest length of a numeral that is read. -/
def maxNumeral : Nat := 64

/-- The number of arguments passed to code. -/
def codeCount : Nat := 8

/-- The number of arguments passed to a script, one per register. -/
def scriptCount : Nat := 16

/-- The first `n` values, followed by zeros if there are fewer. -/
def padded (n : Nat) (values : List Int32) : Vector Int32 n :=
  .ofFn fun i => values.getD i 0

/-! ## Reading -/

/-- The values of `count` words, at most as many as a section may have. -/
def words (count : UInt32) : Decoder (List Int32) :=
  if maxCount < count.toNat then Decoder.fail .invalidValue
  else Codec.i32.decode.many count.toNat

/-- A numeral with its length in front. -/
def numeral : Decoder Int32 := do
  let length ← Codec.u32.decode
  if maxNumeral < length.toNat then Decoder.fail .invalidValue
  else return Numeral.read (← .take length.toNat)

/-- Reads a section, in whichever form it is. -/
def read : Decoder Arguments := do
  let count ← Codec.u32.decode
  if maxCount < count.toNat then Decoder.fail .invalidValue
  else if count = 0 then return ⟨.binary, []⟩
  else if (← Codec.u32.decode.peek) = some marker then
    let _ ← Codec.u32.decode
    return ⟨.ascii, ← numeral.many count.toNat⟩
  else return ⟨.binary, ← words count⟩

/-- A word that may be left out. -/
def optionalWord : Decoder (Option UInt32) := do
  match ← Codec.u32.decode.peek with
  | some _ => return some (← Codec.u32.decode)
  | none => return none

/-! ## Writing -/

/-- The form that values are sent in when `wanted` is asked for. -/
def formFor (values : List Int32) (wanted : Form) : Form :=
  match values with
  | [] => .binary
  | first :: _ => if first.toUInt32 = marker then .ascii else wanted

/-- The section of the given values in a form. -/
def writeAs (values : List Int32) (form : Form) : Bytes :=
  Codec.u32.encode (.ofNat values.length) ++
    match form with
    | .binary => values.flatMap Codec.i32.encode
    | .ascii =>
      Codec.u32.encode marker ++
        values.flatMap fun v => Codec.bytes.encode (Numeral.decimal v.toInt)

/-- The section of the given values, in the form asked for where that is possible. -/
def write (values : List Int32) (wanted : Form) : Bytes :=
  writeAs values (formFor values wanted)

end Arguments

end Coprocessor
