import Coprocessor.Bytes

/-!
# UTF-8

Strict and lossy reading of UTF-8. Strict reading accepts well-formed text only.
Lossy reading never fails : each longest stretch that begins like a character and
goes wrong, or a byte no character begins with, becomes one replacement character
`U+FFFD`.
-/

namespace Coprocessor.Text

/-- The text that the bytes are the UTF-8 form of. -/
def ofUtf8? (s : Bytes) : Option String :=
  String.fromUTF8? ⟨s.toArray⟩

/-- The replacement character. -/
def replacement : Char := '\ufffd'

/-- What a character that begins with a byte goes on with : the least and the
greatest next byte, the number of bytes after that, and the bits so far. -/
structure Lead where
  /-- The least byte that may come next. -/
  low : UInt8
  /-- The greatest byte that may come next. -/
  high : UInt8
  /-- The number of continuation bytes after the next. -/
  more : Nat
  /-- The value bits of the leading byte. -/
  bits : Nat

/-- The lead of a byte that begins a character of more than one byte. -/
def lead? (b : UInt8) : Option Lead :=
  if 0xC2 ≤ b && b ≤ 0xDF then some ⟨0x80, 0xBF, 0, (b &&& 0x1F).toNat⟩
  else if b = 0xE0 then some ⟨0xA0, 0xBF, 1, 0⟩
  else if b = 0xED then some ⟨0x80, 0x9F, 1, 0xD⟩
  else if 0xE1 ≤ b && b ≤ 0xEF then some ⟨0x80, 0xBF, 1, (b &&& 0x0F).toNat⟩
  else if b = 0xF0 then some ⟨0x90, 0xBF, 2, 0⟩
  else if b = 0xF4 then some ⟨0x80, 0x8F, 2, 4⟩
  else if 0xF1 ≤ b && b ≤ 0xF3 then some ⟨0x80, 0xBF, 2, (b &&& 0x07).toNat⟩
  else none

/-- Reads bytes as characters; `open?` is the character that is being read. -/
def lossyChars : Option Lead → Bytes → List Char
  | none, [] => []
  | some _, [] => [replacement]
  | none, b :: rest =>
    if b < 0x80 then Char.ofNat b.toNat :: lossyChars none rest
    else match lead? b with
      | some lead => lossyChars (some lead) rest
      | none => replacement :: lossyChars none rest
  | some lead, b :: rest =>
    if lead.low ≤ b && b ≤ lead.high then
      let bits := lead.bits * 64 + (b &&& 0x3F).toNat
      match lead.more with
      | 0 => Char.ofNat bits :: lossyChars none rest
      | more + 1 => lossyChars (some ⟨0x80, 0xBF, more, bits⟩) rest
    else if b < 0x80 then replacement :: Char.ofNat b.toNat :: lossyChars none rest
    else match lead? b with
      | some lead => replacement :: lossyChars (some lead) rest
      | none => replacement :: replacement :: lossyChars none rest

/-- The bytes as text, with a replacement character for each stretch that is not UTF-8. -/
def lossy (s : Bytes) : String :=
  String.ofList (lossyChars none s)

end Coprocessor.Text
