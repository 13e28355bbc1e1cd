/-!
# Flags, sums and shifts

The four flags of the core, and the arithmetic that sets them. A difference is the
sum with the complement and a carry, so its carry flag is raised when there is no
borrow. A shift tells the bit that was shifted out last.
-/

namespace Coprocessor.Thumb

/-- The condition flags. -/
structure Flags where
  /-- The result is negative. -/
  negative : Bool := false
  /-- The result is zero. -/
  zero : Bool := false
  /-- There was a carry. -/
  carry : Bool := false
  /-- The signed result does not fit. -/
  overflow : Bool := false
  deriving DecidableEq, Repr

/-- The most significant bit of a word. -/
def topBit (w : UInt32) : Bool :=
  w &&& 0x80000000 != 0

namespace Flags

/-- The flags with sign and zero taken from a result. -/
def describe (f : Flags) (result : UInt32) : Flags :=
  { f with negative := topBit result, zero := result == 0 }

end Flags

/-- The sum of two words and a carry, and the flags that describe it. -/
def addFlags (a b : UInt32) (carry : Bool) : UInt32 × Flags :=
  let wide := a.toNat + b.toNat + carry.toNat
  let result := UInt32.ofNat wide
  (result, {
    negative := topBit result
    zero := result == 0
    carry := 0xFFFFFFFF < wide
    overflow := topBit ((a ^^^ result) &&& (b ^^^ result)) })

/-- The difference of two words, and the flags that describe it. -/
def subFlags (a b : UInt32) : UInt32 × Flags :=
  addFlags a (~~~b) true

/-! ## Conditions -/

/-- The condition of a branch. -/
inductive Condition where
  /-- Equal. -/
  | eq
  /-- Different. -/
  | ne
  /-- Unsigned at least, or a carry. -/
  | hs
  /-- Unsigned less, or no carry. -/
  | lo
  /-- Negative. -/
  | mi
  /-- Not negative. -/
  | pl
  /-- Signed overflow. -/
  | vs
  /-- No signed overflow. -/
  | vc
  /-- Unsigned greater. -/
  | hi
  /-- Unsigned at most. -/
  | ls
  /-- Signed at least. -/
  | ge
  /-- Signed less. -/
  | lt
  /-- Signed greater. -/
  | gt
  /-- Signed at most. -/
  | le
  deriving DecidableEq, Repr

namespace Condition

/-- The conditions in the order of their codes. -/
def all : List Condition :=
  [.eq, .ne, .hs, .lo, .mi, .pl, .vs, .vc, .hi, .ls, .ge, .lt, .gt, .le]

/-- The condition with a code. -/
def ofCode? (code : Nat) : Option Condition :=
  all[code]?

/-- Whether the flags satisfy the condition. -/
def holds (f : Flags) : Condition → Bool
  | .eq => f.zero
  | .ne => !f.zero
  | .hs => f.carry
  | .lo => !f.carry
  | .mi => f.negative
  | .pl => !f.negative
  | .vs => f.overflow
  | .vc => !f.overflow
  | .hi => f.carry && !f.zero
  | .ls => !f.carry || f.zero
  | .ge => f.negative == f.overflow
  | .lt => f.negative != f.overflow
  | .gt => !f.zero && f.negative == f.overflow
  | .le => f.zero || f.negative != f.overflow

end Condition

/-! ## Shifts -/

/-- A kind of shift. -/
inductive Shift where
  /-- To the left. -/
  | left
  /-- To the right, zeros coming in. -/
  | logicalRight
  /-- To the right, copies of the sign coming in. -/
  | arithmeticRight
  /-- To the right, the bits shifted out coming in. -/
  | rotateRight
  deriving DecidableEq, Repr

namespace Shift

/-- The bit of a word at a place below 32. -/
def bitAt (w : UInt32) (place : Nat) : Bool :=
  (w >>> .ofNat place) &&& 1 != 0

/-- A word of copies of the sign of `w`. -/
def signFill (w : UInt32) : UInt32 :=
  if topBit w then 0xFFFFFFFF else 0

/-- The shifted word and the last bit shifted out; a shift by zero changes nothing and
keeps the carry. -/
def apply (kind : Shift) (w : UInt32) (amount : Nat) (carry : Bool) : UInt32 × Bool :=
  if amount = 0 then (w, carry)
  else match kind with
    | .left =>
      if amount < 32 then (w <<< .ofNat amount, bitAt w (32 - amount))
      else if amount = 32 then (0, bitAt w 0)
      else (0, false)
    | .logicalRight =>
      if amount < 32 then (w >>> .ofNat amount, bitAt w (amount - 1))
      else if amount = 32 then (0, topBit w)
      else (0, false)
    | .arithmeticRight =>
      if amount < 32 then
        ((w >>> .ofNat amount) ||| (signFill w <<< .ofNat (32 - amount)), bitAt w (amount - 1))
      else (signFill w, topBit w)
    | .rotateRight =>
      let amount := amount % 32
      if amount = 0 then (w, topBit w)
      else
        let result := (w >>> .ofNat amount) ||| (w <<< .ofNat (32 - amount))
        (result, topBit result)

end Shift

end Coprocessor.Thumb
