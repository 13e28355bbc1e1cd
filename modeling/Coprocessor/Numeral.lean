import Coprocessor.Bytes

/-!
# Numerals

The permissive numerals of scripts, arguments and command lines. Blanks around
the text do not count; a sign may come first, then `0x` or `0X` for base 16;
digits are read up to the first byte that is none, and no digits are zero.
Values wrap to 32 bits, so `0xFFFFFFFF` is minus one.

`Numeral.digits` writes what `Numeral.read` reads.
-/

namespace Coprocessor.Numeral

/-! ## Reading -/

/-- The value of a digit in the given base, letters counting on from ten. -/
def digit? (base : UInt32) (b : UInt8) : Option UInt32 :=
  let value : Option UInt32 :=
    if Ascii.isDigit b then some (b - 0x30).toUInt32
    else if Ascii.isLetter b then some ((Ascii.fold b - 0x61).toUInt32 + 10)
    else none
  value.filter (· < base)

/-- The number a run of digits goes on from `value` to, modulo `2 ^ 32`. -/
def accumulate (base : UInt32) : UInt32 → Bytes → UInt32
  | value, [] => value
  | value, b :: rest =>
    match digit? base b with
    | some d => accumulate base (value * base + d) rest
    | none => value

/-- A run of digits with its base prefix. -/
def magnitude : Bytes → UInt32
  | 0x30 :: 0x78 :: rest => accumulate 16 0 rest
  | 0x30 :: 0x58 :: rest => accumulate 16 0 rest
  | digits => accumulate 10 0 digits

/-- The value of a numeral without blanks around it. -/
def signed : Bytes → Int32
  | 0x2D :: rest => -(magnitude rest).toInt32
  | 0x2B :: rest => (magnitude rest).toInt32
  | text => (magnitude text).toInt32

/-- The value of a text as a 32 bit integer. -/
def read (text : Bytes) : Int32 :=
  signed (Ascii.trim text)

/-! ## Writing -/

/-- The digit of a value below sixteen. -/
def digit (d : Nat) : UInt8 :=
  if d < 10 then 0x30 + d.toUInt8 else 0x61 + (d - 10).toUInt8

/-- The digits of a number in a base of at least two, the most significant first. -/
def digits (base n : Nat) : Bytes :=
  if n < base ∨ base < 2 then [digit n]
  else digits base (n / base) ++ [digit (n % base)]
termination_by n
decreasing_by
  rename_i h
  exact Nat.div_lt_self (by omega) (by omega)

/-- The decimal numeral of a number, with a sign if it is negative. -/
def decimal : Int → Bytes
  | .ofNat n => digits 10 n
  | .negSucc n => 0x2D :: digits 10 (n + 1)

end Coprocessor.Numeral
