import Coprocessor.ExecState
import Coprocessor.Header
import Coprocessor.Tune.Note

/-!
# The formats of the link

Everything that is sent has one of the formats here : the integers, truth values
and texts, lists and arrays of a format, and the named values and records of the
protocol. A format determines the type of its values (`Format.Value`), their byte
form (`Format.codec`) and, without writing it, its length (`Format.sizeOf`).
-/

namespace Coprocessor

/-- A format of values on the link. -/
inductive Format where
  /-- Unsigned 8 bit integers. -/
  | u8
  /-- Signed 8 bit integers. -/
  | i8
  /-- Unsigned 16 bit integers. -/
  | u16
  /-- Signed 16 bit integers. -/
  | i16
  /-- Unsigned 32 bit integers. -/
  | u32
  /-- Signed 32 bit integers. -/
  | i32
  /-- Unsigned 64 bit integers. -/
  | u64
  /-- Signed 64 bit integers. -/
  | i64
  /-- Truth values. -/
  | bool
  /-- Texts. -/
  | text
  /-- Lists of values of one format. -/
  | list (element : Format)
  /-- Arrays of a fixed length. -/
  | array (element : Format) (length : Nat)
  /-- Status codes. -/
  | status
  /-- Execution states. -/
  | execState
  /-- Frame headers. -/
  | header
  /-- Notes. -/
  | note
  deriving DecidableEq, Repr

namespace Format

/-- The values of a format. -/
def Value : Format → Type
  | u8 => UInt8
  | i8 => Int8
  | u16 => UInt16
  | i16 => Int16
  | u32 => UInt32
  | i32 => Int32
  | u64 => UInt64
  | i64 => Int64
  | bool => Bool
  | text => String
  | list f => List f.Value
  | array f n => { xs : List f.Value // xs.length = n }
  | status => Status
  | execState => ExecState
  | header => Header
  | note => Note

/-- The byte form of the values of a format. -/
def codec : (f : Format) → Codec f.Value
  | u8 => Codec.u8
  | i8 => Codec.i8
  | u16 => Codec.u16
  | i16 => Codec.i16
  | u32 => Codec.u32
  | i32 => Codec.i32
  | u64 => Codec.u64
  | i64 => Codec.i64
  | bool => Codec.bool
  | text => Codec.text
  | list f => Codec.list f.codec
  | array f n => Codec.array f.codec n
  | status => Codec.tagged Codec.i32 Status.code Status.ofCode?
  | execState => Codec.tagged Codec.u32 ExecState.code ExecState.ofCode?
  | header => Header.codec
  | note => Note.codec

/-- The length of the byte form of a value. -/
def sizeOf : (f : Format) → f.Value → Nat
  | u8, _ | i8, _ | bool, _ => 1
  | u16, _ | i16, _ => 2
  | u32, _ | i32, _ | status, _ | execState, _ => 4
  | u64, _ | i64, _ => 8
  | text, (s : String) => 4 + s.utf8ByteSize
  | list f, (xs : List f.Value) => 4 + (xs.map f.sizeOf).foldl (· + ·) 0
  | array f _, xs => (xs.1.map f.sizeOf).foldl (· + ·) 0
  | header, _ => Header.size
  | note, _ => Note.size

end Format

end Coprocessor
