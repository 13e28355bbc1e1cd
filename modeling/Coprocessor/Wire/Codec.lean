import Coprocessor.Wire.Decoder
import Coprocessor.Text.Unicode

/-!
# The byte forms of values

A codec is a writer and a reader of one type. Integers are little-endian and of
fixed width, a list is its length as a 32 bit word and then its elements, an
array its elements alone, a text the list of its UTF-8 bytes, and a choice among
named values the tag of the one chosen.
-/

namespace Coprocessor

/-- A byte form of the values of a type. -/
structure Codec (α : Type) where
  /-- The bytes of a value. -/
  encode : α → Bytes
  /-- Reads a value from the front of an input. -/
  decode : Decoder α

namespace Codec

/-! ## Integers -/

/-- The `width` bytes of a number, the least significant first. -/
def littleEndian : Nat → Nat → Bytes
  | 0, _ => []
  | width + 1, n => UInt8.ofNat n :: littleEndian width (n / 256)

/-- The number with the given bytes, the least significant first. -/
def ofLittleEndian : Bytes → Nat
  | [] => 0
  | b :: s => b.toNat + 256 * ofLittleEndian s

/-- The numbers below `256 ^ width`, through a type that has them. -/
def word (width : Nat) (toNat : α → Nat) (ofNat : Nat → α) : Codec α where
  encode v := littleEndian width (toNat v)
  decode := return ofNat (ofLittleEndian (← .take width))

/-- Unsigned 8 bit integers. -/
def u8 : Codec UInt8 := word 1 UInt8.toNat UInt8.ofNat

/-- Unsigned 16 bit integers. -/
def u16 : Codec UInt16 := word 2 UInt16.toNat UInt16.ofNat

/-- Unsigned 32 bit integers. -/
def u32 : Codec UInt32 := word 4 UInt32.toNat UInt32.ofNat

/-- Unsigned 64 bit integers. -/
def u64 : Codec UInt64 := word 8 UInt64.toNat UInt64.ofNat

/-- Signed 8 bit integers, in two's complement. -/
def i8 : Codec Int8 := word 1 (·.toUInt8.toNat) (UInt8.toInt8 <| .ofNat ·)

/-- Signed 16 bit integers, in two's complement. -/
def i16 : Codec Int16 := word 2 (·.toUInt16.toNat) (UInt16.toInt16 <| .ofNat ·)

/-- Signed 32 bit integers, in two's complement. -/
def i32 : Codec Int32 := word 4 (·.toUInt32.toNat) (UInt32.toInt32 <| .ofNat ·)

/-- Signed 64 bit integers, in two's complement. -/
def i64 : Codec Int64 := word 8 (·.toUInt64.toNat) (UInt64.toInt64 <| .ofNat ·)

/-- A word of some width takes that many bytes. -/
theorem takes_word (width : Nat) (toNat : α → Nat) (ofNat : Nat → α) :
    (word width toNat ofNat).decode.Takes width :=
  Decoder.Takes.bind (Decoder.takes_take width) fun _ => Decoder.takes_pure _

/-! ## Compound values -/

/-- The values of one codec seen as those of another type. -/
def iso (make : α → β) (back : β → α) (c : Codec α) : Codec β where
  encode b := c.encode (back b)
  decode := return make (← c.decode)

/-- A value and then another. -/
def pair (a : Codec α) (b : Codec β) : Codec (α × β) where
  encode v := a.encode v.1 ++ b.encode v.2
  decode := return (← a.decode, ← b.decode)

/-- Two values take the bytes of both. -/
theorem takes_pair {a : Codec α} {b : Codec β} {m n : Nat} (ha : a.decode.Takes m)
    (hb : b.decode.Takes n) : (pair a b).decode.Takes (m + n) :=
  Decoder.Takes.bind ha fun _ =>
    Decoder.Takes.bind (n := 0) hb fun _ => Decoder.takes_pure _

/-- A choice, as the tag of the value chosen. -/
def tagged (tag : Codec τ) (toTag : α → τ) (ofTag? : τ → Option α) : Codec α where
  encode a := tag.encode (toTag a)
  decode := tag.decode.filterMap ofTag?

/-- Truth values, as zero and one. -/
def bool : Codec Bool :=
  tagged u8 (fun b => if b then 1 else 0) fun t =>
    if t = 0 then some false else if t = 1 then some true else none

/-- The greatest number of elements that is read. -/
def maxLength : Nat := 1048576

/-- The length of a list, refused beyond the limit. -/
def length : Decoder Nat := do
  let n ← u32.decode
  if maxLength < n.toNat then Decoder.fail .lengthOverflow else pure n.toNat

/-- Lists, with their length in front. -/
def list (c : Codec α) : Codec (List α) where
  encode xs := u32.encode (.ofNat xs.length) ++ xs.flatMap c.encode
  decode := do c.decode.many (← length)

/-- A list as an array, if it has the length. -/
def sized? (n : Nat) (xs : List α) : Option { xs : List α // xs.length = n } :=
  if h : xs.length = n then some ⟨xs, h⟩ else none

/-- Arrays of a fixed length. -/
def array (c : Codec α) (n : Nat) : Codec { xs : List α // xs.length = n } where
  encode xs := xs.1.flatMap c.encode
  decode := (c.decode.many n).filterMap (sized? n)

/-- Bytes, with their number in front. -/
def bytes : Codec Bytes := list u8

/-- Texts, as the bytes of their UTF-8 form. -/
def text : Codec String where
  encode s := bytes.encode (.ofText s)
  decode := bytes.decode.filterMap Text.ofUtf8?

end Codec

end Coprocessor
