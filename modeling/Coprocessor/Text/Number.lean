/-!
# Numbers in messages

Hexadecimal numbers of a fixed width with their prefix, and spans of time in the
largest unit that does not exceed them, with no trailing zeros. Clocks count nanoseconds;
limits and pauses are given in milliseconds.
-/

namespace Coprocessor

/-- The number of nanoseconds of a number of milliseconds. -/
def millis (n : Nat) : Nat :=
  1000000 * n

namespace Text

/-- The digit of a value below sixteen. -/
def hexDigit (n : Nat) : Char :=
  if n < 10 then Char.ofNat (0x30 + n) else Char.ofNat (0x61 + (n - 10))

/-- The lower `width` hexadecimal digits of a number. -/
def hexDigits : Nat → Nat → List Char
  | 0, _ => []
  | width + 1, n => hexDigits width (n / 16) ++ [hexDigit (n % 16)]

/-- `0x` and the four digits of a half word. -/
def hex16 (n : UInt16) : String :=
  "0x" ++ String.ofList (hexDigits 4 n.toNat)

/-- `0x` and the eight digits of a word. -/
def hex32 (n : UInt32) : String :=
  "0x" ++ String.ofList (hexDigits 8 n.toNat)

/-- The two digits of each byte. -/
def hexBytes (s : List UInt8) : String :=
  String.ofList (s.flatMap fun b => [hexDigit (b.toNat / 16), hexDigit (b.toNat % 16)])

/-- The lower `width` decimal digits of a number. -/
def decimalDigits : Nat → Nat → List Char
  | 0, _ => []
  | width + 1, n => decimalDigits width (n / 10) ++ [hexDigit (n % 10)]

/-- The number `whole + part / 10 ^ places`, zeros at its end left out. -/
def fraction (whole part places : Nat) : String :=
  let tail := ((decimalDigits places part).reverse.dropWhile (· == '0')).reverse
  if tail.isEmpty then toString whole else toString whole ++ "." ++ String.ofList tail

/-- A span of time in nanoseconds, in the largest unit that does not exceed it. -/
def span (nanos : Nat) : String :=
  if 1000000000 ≤ nanos then fraction (nanos / 1000000000) (nanos % 1000000000) 9 ++ "s"
  else if 1000000 ≤ nanos then fraction (nanos / 1000000) (nanos % 1000000) 6 ++ "ms"
  else if 1000 ≤ nanos then fraction (nanos / 1000) (nanos % 1000) 3 ++ "µs"
  else toString nanos ++ "ns"

/-- A span of time in milliseconds. -/
def spanMillis (n : Nat) : String :=
  span (millis n)

end Text

end Coprocessor
