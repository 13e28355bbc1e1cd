import Coprocessor.Arguments
import Coprocessor.Status
import Coprocessor.Thumb.Instruction

/-!
# The core

A core runs code of its own on sixteen registers, four flags and a stack of 256
words. The code is a function of eight integers : the first four are in registers
at the beginning, the others on the stack, and the link register holds an address
at which there is no code. A jump to that address ends the run with what is in
register zero. Whatever is undefined, outside the code or outside the stack is a
fault.

A run is cancelled before an instruction, and it ends when its budget of
instructions is used up (`Core.run`).
-/

namespace Coprocessor.Thumb

/-- The number of words on the stack. -/
def stackWords : Nat := 256

/-- The address of the first word of the stack. -/
def stackBase : UInt32 := 0x20000000

/-- The address that ends the run. -/
def returnAddress : UInt32 := 0xFFFFFFFE

/-- A core. -/
structure Core where
  /-- The registers. -/
  registers : Vector UInt32 16
  /-- The flags. -/
  flags : Flags
  /-- The stack, the word with the lowest address first. -/
  stack : Vector UInt32 stackWords

/-- Why a core goes no further. -/
inductive Halt where
  /-- The code returned a value. -/
  | returned (value : UInt32)
  /-- The code did what it may not do. -/
  | fault
  deriving DecidableEq, Repr

namespace Core

/-! ## Registers and the stack -/

/-- The core with a value in a register. -/
def put (c : Core) (r : Register) (value : UInt32) : Core :=
  { c with registers := c.registers.set r.val value r.isLt }

/-- The core with a result in a register and flags that describe it. -/
def putDescribed (c : Core) (r : Register) (value : UInt32) : Core :=
  { c.put r value with flags := c.flags.describe value }

/-- The core with a result in a register and the flags that came with it. -/
def putFlagged (c : Core) (r : Register) (result : UInt32 × Flags) : Core :=
  { c.put r result.1 with flags := result.2 }

/-- The place on the stack of an address, if it is that of a word there. -/
def slot? (address : UInt32) : Option (Fin stackWords) :=
  if address < stackBase then none
  else
    let offset := (address - stackBase).toNat
    if h : offset % 4 = 0 ∧ offset / 4 < stackWords then some ⟨offset / 4, h.2⟩ else none

/-- The word on the stack at an address. -/
def load (c : Core) (address : UInt32) : Except Halt UInt32 :=
  match slot? address with
  | some i => .ok c.stack[i]
  | none => .error .fault

/-- The core with a word on the stack at an address. -/
def store (c : Core) (address value : UInt32) : Except Halt Core :=
  match slot? address with
  | some i => .ok { c with stack := c.stack.set i value }
  | none => .error .fault

/-- A core before the first instruction of a call with eight arguments. -/
def start (arguments : Vector Int32 Arguments.codeCount) : Core where
  registers := Vector.ofFn fun r =>
    if h : r.val < 4 then (arguments.get ⟨r.val, Nat.lt_trans h (by decide)⟩).toUInt32
    else if r = Register.sp then stackBase + 4 * 252
    else if r = Register.lr then returnAddress
    else 0
  flags := {}
  stack := Vector.ofFn fun i =>
    if h : 252 ≤ i.val then
      (arguments.get ⟨i.val - 248, by
        have := i.isLt
        simp only [stackWords] at this
        simp only [Arguments.codeCount]
        omega⟩).toUInt32
    else 0

/-! ## Instructions -/

/-- The half word at an address, if it lies inside the code. -/
def fetch? (code : Array UInt8) (address : UInt32) : Option UInt16 := do
  let lower ← code[address.toNat]?
  let upper ← code[address.toNat + 1]?
  return upper.toUInt16 <<< 8 ||| lower.toUInt16

/-- The core after a jump. -/
def jumpTo (code : Array UInt8) (target : UInt32) (c : Core) : Except Halt Core :=
  let target := target &&& ~~~1
  if target = returnAddress then .error (.returned (c.registers.get Register.first))
  else if code.size ≤ target.toNat then .error .fault
  else .ok (c.put .pc target)

/-- The value of a register as an instruction reads it : the program counter reads as
the address of the second next instruction. -/
def read (c : Core) (r : Register) : UInt32 :=
  if r = .pc then c.registers.get Register.pc + 2 else c.registers.get r

/-- The value of a source. -/
def eval (c : Core) : Source → UInt32
  | .register r => c.registers.get r.up
  | .immediate value => value

/-- The core after an operation on the target's value `a` and the source's value `b`. -/
def operate (c : Core) (operation : Operation) (target : Register) (a b : UInt32) : Core :=
  match operation with
  | .and => c.putDescribed target (a &&& b)
  | .xor => c.putDescribed target (a ^^^ b)
  | .shift kind =>
    let (result, carry) := kind.apply a (b &&& 0xFF).toNat c.flags.carry
    { c with flags := { c.flags with carry } }.putDescribed target result
  | .addCarry => c.putFlagged target (addFlags a b c.flags.carry)
  | .subCarry => c.putFlagged target (addFlags a (~~~b) c.flags.carry)
  | .test => { c with flags := c.flags.describe (a &&& b) }
  | .negate => c.putFlagged target (subFlags 0 b)
  | .compare => { c with flags := (subFlags a b).2 }
  | .compareNegative => { c with flags := (addFlags a b false).2 }
  | .or => c.putDescribed target (a ||| b)
  | .multiply => c.putDescribed target (a * b)
  | .clear => c.putDescribed target (a &&& ~~~b)
  | .complement => c.putDescribed target (~~~b)

/-- The core with words on the stack from an address on. -/
def storeAll (c : Core) (address : UInt32) : List UInt32 → Except Halt Core
  | [] => .ok c
  | value :: rest => do (← c.store address value).storeAll (address + 4) rest

/-- The core with registers taken off the stack from an address on, and the address
after them. -/
def loadAll (c : Core) (address : UInt32) : List LowRegister → Except Halt (Core × UInt32)
  | [] => .ok (c, address)
  | r :: rest => do (c.put r.up (← c.load address)).loadAll (address + 4) rest

/-- The core with values below the stack pointer, which moves down to the first. -/
def push (c : Core) (values : List UInt32) : Except Halt Core :=
  let address := c.registers.get Register.sp - 4 * .ofNat values.length
  (c.put .sp address).storeAll address values

/-- The core after an instruction, the program counter being at the next one. -/
def execute (code : Array UInt8) (c : Core) : Instruction → Except Halt Core
  | .shift kind target source amount =>
    let (result, carry) := kind.apply (c.registers.get source.up) amount c.flags.carry
    .ok <| { c with flags := { c.flags with carry } }.putDescribed target.up result
  | .add target left right =>
    .ok <| c.putFlagged target.up (addFlags (c.registers.get left.up) (c.eval right) false)
  | .sub target left right =>
    .ok <| c.putFlagged target.up (subFlags (c.registers.get left.up) (c.eval right))
  | .move target value => .ok <| c.putDescribed target.up value
  | .compare left right => .ok { c with flags := (subFlags (c.registers.get left.up) right).2 }
  | .operate operation target source =>
    .ok <| c.operate operation target.up (c.registers.get target.up)
      (c.registers.get source.up)
  | .addHigh target source =>
    let value := c.read target + c.read source
    if target = .pc then c.jumpTo code value else .ok (c.put target value)
  | .compareHigh left right => .ok { c with flags := (subFlags (c.read left) (c.read right)).2 }
  | .moveHigh target source =>
    if target = .pc then c.jumpTo code (c.read source) else .ok (c.put target (c.read source))
  | .exchange source link =>
    let target := c.read source
    (if link then c.put .lr (c.registers.get Register.pc ||| 1) else c).jumpTo code target
  | .adjustStack offset => .ok <| c.put .sp (c.registers.get Register.sp + offset)
  | .push registers link =>
    let lower := registers.map fun r => c.registers.get r.up
    c.push (if link then lower ++ [c.registers.get Register.lr] else lower)
  | .pop registers jump => do
    let (c, address) ← c.loadAll (c.registers.get Register.sp) registers
    if jump then (c.put .sp (address + 4)).jumpTo code (← c.load address)
    else .ok (c.put .sp address)
  | .hint => .ok c
  | .branchIf condition offset =>
    if condition.holds c.flags then c.jumpTo code (c.registers.get Register.pc + 2 + offset)
    else .ok c
  | .branch offset => c.jumpTo code (c.registers.get Register.pc + 2 + offset)

/-- The core after the instruction at its program counter. -/
def step (code : Array UInt8) (c : Core) : Except Halt Core :=
  match (fetch? code (c.registers.get Register.pc)).bind Instruction.decode with
  | some i => (c.put .pc (c.registers.get Register.pc + 2)).execute code i
  | none => .error .fault

/-! ## Runs -/

/-- The value that a run of at most `budget` instructions returns, the first of them
being number `count`. `cancelled` tells whether the cancel flag is raised before an
instruction. -/
def run (code : Array UInt8) (cancelled : Nat → Bool) :
    (budget count : Nat) → Core → Except Status Int32
  | 0, _, _ => .error .execution
  | budget + 1, count, c =>
    if cancelled count then .error .timeout
    else match c.step code with
      | .ok c => run code cancelled budget (count + 1) c
      | .error (.returned value) => .ok value.toInt32
      | .error .fault => .error .execution

/-- Whether the core can be asked to run the code : it is not empty, and its length is
even. -/
def accepts (code : Bytes) : Bool :=
  !code.isEmpty && code.length % 2 == 0

/-- What a call of code returns. -/
def invoke (code : Bytes) (arguments : Vector Int32 Arguments.codeCount)
    (cancelled : Nat → Bool) (budget : Nat) : Except Status Int32 :=
  if accepts code then run code.toArray cancelled budget 0 (start arguments)
  else .error .parameter

end Core

end Coprocessor.Thumb
