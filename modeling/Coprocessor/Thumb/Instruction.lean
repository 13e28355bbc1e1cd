import Coprocessor.Thumb.Flags

/-!
# Thumb instructions

The instructions that the core knows, and the half words that stand for them :
shifts, sums and comparisons with an immediate, the sixteen register operations,
operations on all sixteen registers, jumps through a register, stack instructions,
branches and hints. Every other half word is undefined.
-/

namespace Coprocessor.Thumb

/-- A register. -/
abbrev Register := Fin 16

namespace Register

/-- The register of the first argument, and of what a function returns. -/
def first : Register := ⟨0, by decide⟩

/-- The stack pointer. -/
def sp : Register := 13

/-- The link register. -/
def lr : Register := 14

/-- The program counter. -/
def pc : Register := 15

end Register

/-- One of the lower eight registers. -/
abbrev LowRegister := Fin 8

/-- A lower register among all of them. -/
def LowRegister.up (r : LowRegister) : Register :=
  r.castLE (by decide)

/-- An operation on two lower registers. -/
inductive Operation where
  /-- Conjunction of the bits. -/
  | and
  /-- Exclusive disjunction of the bits. -/
  | xor
  /-- A shift by the lower byte of the second register. -/
  | shift (kind : Shift)
  /-- Sum with the carry. -/
  | addCarry
  /-- Difference with the borrow. -/
  | subCarry
  /-- Conjunction, for the flags only. -/
  | test
  /-- Negation of the second register. -/
  | negate
  /-- Difference, for the flags only. -/
  | compare
  /-- Sum, for the flags only. -/
  | compareNegative
  /-- Disjunction of the bits. -/
  | or
  /-- Product. -/
  | multiply
  /-- Conjunction with the complement. -/
  | clear
  /-- Complement of the second register. -/
  | complement
  deriving DecidableEq, Repr

/-- The operations in the order of their codes. -/
def Operation.all : List Operation :=
  [.and, .xor, .shift .left, .shift .logicalRight, .shift .arithmeticRight, .addCarry, .subCarry,
    .shift .rotateRight, .test, .negate, .compare, .compareNegative, .or, .multiply, .clear,
    .complement]

/-- A value in an instruction. -/
inductive Source where
  /-- What a register holds. -/
  | register (r : LowRegister)
  /-- A constant. -/
  | immediate (value : UInt32)
  deriving DecidableEq, Repr

/-- An instruction. -/
inductive Instruction where
  /-- Shifts by a constant. -/
  | shift (kind : Shift) (target source : LowRegister) (amount : Nat)
  /-- The sum of a register and a value. -/
  | add (target left : LowRegister) (right : Source)
  /-- The difference of a register and a value. -/
  | sub (target left : LowRegister) (right : Source)
  /-- Sets a register. -/
  | move (target : LowRegister) (value : UInt32)
  /-- Compares a register with a constant. -/
  | compare (left : LowRegister) (right : UInt32)
  /-- An operation on two registers. -/
  | operate (operation : Operation) (target source : LowRegister)
  /-- The sum of any two registers, without flags. -/
  | addHigh (target source : Register)
  /-- Compares any two registers. -/
  | compareHigh (left right : Register)
  /-- Copies any register. -/
  | moveHigh (target source : Register)
  /-- Jumps to the address in a register, and links if asked to. -/
  | exchange (source : Register) (link : Bool)
  /-- Moves the stack pointer. -/
  | adjustStack (offset : UInt32)
  /-- Puts registers on the stack, and the link register if asked to. -/
  | push (registers : List LowRegister) (link : Bool)
  /-- Takes registers off the stack, and jumps to one more word if asked to. -/
  | pop (registers : List LowRegister) (jump : Bool)
  /-- Nothing. -/
  | hint
  /-- Jumps by an offset if a condition holds. -/
  | branchIf (condition : Condition) (offset : UInt32)
  /-- Jumps by an offset. -/
  | branch (offset : UInt32)
  deriving DecidableEq, Repr

namespace Instruction

/-- The number in the `width` bits of `op` from a place on. -/
@[inline] def field (op : UInt16) (place width : Nat) : Nat :=
  op.toNat / Nat.pow 2 place % Nat.pow 2 width

/-- The lower register named at a place. -/
def low (op : UInt16) (place : Nat) : LowRegister :=
  ⟨field op place 3, Nat.mod_lt _ (by decide)⟩

/-- The registers of a list of eight bits. -/
def registerList (op : UInt16) : List LowRegister :=
  (List.finRange 8).filter fun r => field op r.val 1 = 1

/-- Twice the signed number in the lower `width` bits, as a word. -/
@[inline] def branchOffset (op : UInt16) (width : Nat) : UInt32 :=
  let n := field op 0 width
  if n < Nat.pow 2 (width - 1) then .ofNat (2 * n)
  else .ofNat (0x100000000 + 2 * n - 2 * Nat.pow 2 width)

/-- A shift by the number in the five bits of an instruction; zero stands for 32 except
to the left. -/
def readShift (op : UInt16) : Shift → Instruction :=
  fun kind =>
    let amount := field op 6 5
    .shift kind (low op 0) (low op 3) (if amount = 0 && kind ≠ .left then 32 else amount)

/-- A sum or a difference of a lower register and a register or a three bit constant. -/
def readAddSub (op : UInt16) : Instruction :=
  let right :=
    if field op 10 1 = 1 then .immediate (.ofNat (field op 6 3)) else .register (low op 6)
  if field op 9 1 = 1 then .sub (low op 0) (low op 3) right else .add (low op 0) (low op 3) right

/-- An operation on a register and an eight bit constant. -/
def readImmediate (op : UInt16) : Instruction :=
  let r := low op 8
  let value := UInt32.ofNat (field op 0 8)
  match field op 11 2 with
  | 0 => .move r value
  | 1 => .compare r value
  | 2 => .add r r (.immediate value)
  | _ => .sub r r (.immediate value)

/-- An operation on any two registers, or a jump through one. -/
def readHigh (op : UInt16) : Instruction :=
  let target : Register := ⟨field op 7 1 * 8 + field op 0 3, by
    have h1 : field op 7 1 < 2 := Nat.mod_lt _ (by decide)
    have h3 : field op 0 3 < 8 := Nat.mod_lt _ (by decide)
    omega⟩
  let source : Register := ⟨field op 3 4, Nat.mod_lt _ (by decide)⟩
  match field op 8 2 with
  | 0 => .addHigh target source
  | 1 => .compareHigh target source
  | 2 => .moveHigh target source
  | _ => .exchange source (field op 7 1 = 1)

/-- A stack instruction or a hint. -/
def readMiscellaneous (op : UInt16) : Option Instruction :=
  match field op 8 4 with
  | 0x0 =>
    let amount := 4 * field op 0 7
    some <| .adjustStack (if field op 7 1 = 1 then .ofNat (0x100000000 - amount) else .ofNat amount)
  | 0x4 => some (.push (registerList op) false)
  | 0x5 => some (.push (registerList op) true)
  | 0xC => some (.pop (registerList op) false)
  | 0xD => some (.pop (registerList op) true)
  | 0xF => if field op 0 4 = 0 then some .hint else none
  | _ => none

/-- The instruction that a half word stands for. -/
def decode (op : UInt16) : Option Instruction :=
  match field op 11 5 with
  | 0 => some (readShift op .left)
  | 1 => some (readShift op .logicalRight)
  | 2 => some (readShift op .arithmeticRight)
  | 3 => some (readAddSub op)
  | 4 | 5 | 6 | 7 => some (readImmediate op)
  | 8 =>
    if field op 10 1 = 0 then
      (Operation.all[field op 6 4]?).map fun operation => .operate operation (low op 0) (low op 3)
    else some (readHigh op)
  | 22 | 23 => readMiscellaneous op
  | 26 | 27 =>
    (Condition.ofCode? (field op 8 4)).map fun condition => .branchIf condition (branchOffset op 8)
  | 28 => some (.branch (branchOffset op 11))
  | _ => none

end Instruction

end Coprocessor.Thumb
