import Coprocessor.Thumb.Core
import Mathlib.Algebra.Group.Nat.Defs

/-!
# A core that is watched

A watched core does what a core does, one access, one sum of addresses and one shift after another.
It keeps a log of the half words of code and of the words on the stack that it uses, and it is lost
as soon as a sum of addresses does not fit a word, or a word is shifted by its length or more : there
is no result then, not even a fault. Where a watched core is safe, that is, has a result and uses
only what is there, the core itself may go without the checks.

Sums that may go round, those with the offset of a branch or of the stack pointer, are not watched.
No register and no place on the stack has to be checked for being one : they are numbers below 16
and 256 by their types.
-/

namespace Coprocessor.Thumb

/-- A place that a core uses. -/
inductive Access where
  /-- The half word of code at an address. -/
  | code (address : UInt32)
  /-- The word on the stack at an address. -/
  | stack (address : UInt32)
  deriving DecidableEq, Repr

/-- Whether all of a place is there, with so many bytes of code. -/
def Access.Within (size : Nat) : Access → Prop
  | code address => address.toNat % 2 = 0 ∧ address.toNat + 2 ≤ size
  | stack address => ∃ i < stackWords, address.toNat = stackBase.toNat + 4 * i

/-- What is watched of a computation. -/
inductive Guarded (α : Type) where
  /-- A sum did not fit a word, or a shift was too long. -/
  | lost
  /-- The places that were used, the first one first, and the result. -/
  | ended (log : List Access) (result : α)
  deriving DecidableEq, Repr

namespace Guarded

variable {α β : Type}

/-- One computation and then another. -/
def andThen : Guarded α → (α → Guarded β) → Guarded β
  | lost, _ => lost
  | ended log a, next =>
    match next a with
    | lost => lost
    | ended more b => ended (log ++ more) b

instance : Monad Guarded where
  pure := ended []
  bind := andThen

/-- The computation has a result, and all that it uses is there. -/
def Safe (size : Nat) (g : Guarded α) (result : α) : Prop :=
  ∃ log, g = ended log result ∧ ∀ access ∈ log, access.Within size

variable {size : Nat}

theorem safe_pure (a : α) : Safe size (pure a) a :=
  ⟨[], rfl, fun _ h => absurd h List.not_mem_nil⟩

theorem Safe.bind {g : Guarded α} {next : α → Guarded β} {a : α} {b : β} (hg : g.Safe size a)
    (hnext : (next a).Safe size b) : (g >>= next).Safe size b := by
  obtain ⟨log, rfl, hlog⟩ := hg
  obtain ⟨more, hmore, hwithin⟩ := hnext
  have hrun : (ended log a >>= next) = andThen (ended log a) next := rfl
  refine ⟨log ++ more, ?_, fun access h => ?_⟩
  · rw [hrun, andThen, hmore]
  · exact (List.mem_append.mp h).elim (hlog access) (hwithin access)

end Guarded

/-- What is watched of a computation that a core may end. -/
abbrev Attempt (α : Type) : Type :=
  ExceptT Halt Guarded α

namespace Attempt

variable {α β : Type} {size : Nat}

/-- A result, whatever was used for it. -/
def done (result : Except Halt α) : Attempt α :=
  ExceptT.mk (pure result)

/-- A result for which a place is used, unless it is refused. -/
def touch (access : Access) : Except Halt α → Attempt α
  | .ok a => ExceptT.mk (.ended [access] (.ok a))
  | .error halt => done (.error halt)

/-- A sum that has to fit a word. -/
def sum (a b : UInt32) : Attempt UInt32 :=
  if a.toNat + b.toNat < 2 ^ 32 then done (.ok (a + b)) else ExceptT.mk .lost

/-- A word shifted to the left, which has to be by less than its length. -/
def shiftLeft (w : UInt32) (places : Nat) : Attempt UInt32 :=
  if places < 32 then done (.ok (w <<< .ofNat places)) else ExceptT.mk .lost

/-- A word shifted to the right, which has to be by less than its length. -/
def shiftRight (w : UInt32) (places : Nat) : Attempt UInt32 :=
  if places < 32 then done (.ok (w >>> .ofNat places)) else ExceptT.mk .lost

/-- The attempt has a result, and all that it uses is there. -/
abbrev Safe (size : Nat) (attempt : Attempt α) (result : Except Halt α) : Prop :=
  Guarded.Safe size attempt.run result

theorem safe_done (result : Except Halt α) : Safe size (done result) result :=
  Guarded.safe_pure result

theorem safe_touch {access : Access} {result : Except Halt α}
    (h : ∀ a, result = .ok a → access.Within size) : Safe size (touch access result) result := by
  cases result with
  | ok a => exact ⟨[access], rfl, fun _ h' => List.mem_singleton.mp h' ▸ h a rfl⟩
  | error halt => exact safe_done _

theorem Safe.bind {attempt : Attempt α} {next : α → Attempt β} {result : Except Halt α}
    {rest : α → Except Halt β} (h : attempt.Safe size result)
    (hnext : ∀ a, result = .ok a → (next a).Safe size (rest a)) :
    Safe size (attempt >>= next) (result >>= rest) := by
  cases result with
  | ok a => exact Guarded.Safe.bind h (hnext a rfl)
  | error halt => exact Guarded.Safe.bind h (Guarded.safe_pure _)

/-- A sum that fits is the sum. -/
theorem safe_sum_bind {a b : UInt32} {next : UInt32 → Attempt β} {rest : Except Halt β}
    (h : a.toNat + b.toNat < 2 ^ 32) (hnext : (next (a + b)).Safe size rest) :
    Safe size (sum a b >>= next) rest := by
  rw [sum, if_pos h]
  exact Guarded.Safe.bind (safe_done _) hnext

theorem safe_shiftLeft_bind {w : UInt32} {places : Nat} {next : UInt32 → Attempt β}
    {rest : Except Halt β} (h : places < 32)
    (hnext : (next (w <<< .ofNat places)).Safe size rest) :
    Safe size (shiftLeft w places >>= next) rest := by
  rw [shiftLeft, if_pos h]
  exact Guarded.Safe.bind (safe_done _) hnext

theorem safe_shiftRight_bind {w : UInt32} {places : Nat} {next : UInt32 → Attempt β}
    {rest : Except Halt β} (h : places < 32)
    (hnext : (next (w >>> .ofNat places)).Safe size rest) :
    Safe size (shiftRight w places >>= next) rest := by
  rw [shiftRight, if_pos h]
  exact Guarded.Safe.bind (safe_done _) hnext

end Attempt

/-! ## Shifts -/

/-- The shifted word and the last bit shifted out. -/
def Shift.watchedApply (kind : Shift) (w : UInt32) (amount : Nat) (carry : Bool) :
    Attempt (UInt32 × Bool) :=
  if amount = 0 then .done (.ok (w, carry))
  else match kind with
    | .left =>
      if amount < 32 then do
        let result ← .shiftLeft w amount
        let last ← .shiftRight w (32 - amount)
        .done (.ok (result, last &&& 1 != 0))
      else .done (.ok (apply .left w amount carry))
    | .logicalRight =>
      if amount < 32 then do
        let result ← .shiftRight w amount
        let last ← .shiftRight w (amount - 1)
        .done (.ok (result, last &&& 1 != 0))
      else .done (.ok (apply .logicalRight w amount carry))
    | .arithmeticRight =>
      if amount < 32 then do
        let result ← .shiftRight w amount
        let fill ← .shiftLeft (signFill w) (32 - amount)
        let last ← .shiftRight w (amount - 1)
        .done (.ok (result ||| fill, last &&& 1 != 0))
      else .done (.ok (apply .arithmeticRight w amount carry))
    | .rotateRight =>
      if amount % 32 = 0 then .done (.ok (apply .rotateRight w amount carry))
      else do
        let lower ← .shiftRight w (amount % 32)
        let upper ← .shiftLeft w (32 - amount % 32)
        .done (.ok (lower ||| upper, topBit (lower ||| upper)))

/-- No shift is by the length of a word or more. -/
theorem Shift.safe_watchedApply (size : Nat) (kind : Shift) (w : UInt32) (amount : Nat)
    (carry : Bool) :
    (kind.watchedApply w amount carry).Safe size (.ok (kind.apply w amount carry)) := by
  by_cases h0 : amount = 0
  · unfold watchedApply apply
    rw [if_pos h0, if_pos h0]
    exact Attempt.safe_done _
  unfold watchedApply
  rw [if_neg h0]
  cases kind with
  | left =>
    dsimp only
    split
    case isTrue h =>
      refine Attempt.safe_shiftLeft_bind h (Attempt.safe_shiftRight_bind (by omega) ?_)
      rw [apply, if_neg h0, if_pos h]
      exact Attempt.safe_done _
    case isFalse => exact Attempt.safe_done _
  | logicalRight =>
    dsimp only
    split
    case isTrue h =>
      refine Attempt.safe_shiftRight_bind h (Attempt.safe_shiftRight_bind (by omega) ?_)
      rw [apply, if_neg h0, if_pos h]
      exact Attempt.safe_done _
    case isFalse => exact Attempt.safe_done _
  | arithmeticRight =>
    dsimp only
    split
    case isTrue h =>
      refine Attempt.safe_shiftRight_bind h (Attempt.safe_shiftLeft_bind (by omega)
        (Attempt.safe_shiftRight_bind (by omega) ?_))
      rw [apply, if_neg h0, if_pos h]
      exact Attempt.safe_done _
    case isFalse => exact Attempt.safe_done _
  | rotateRight =>
    dsimp only
    split
    case isTrue => exact Attempt.safe_done _
    case isFalse h =>
      refine Attempt.safe_shiftRight_bind (by omega) (Attempt.safe_shiftLeft_bind (by omega) ?_)
      rw [apply, if_neg h0, if_neg h]
      exact Attempt.safe_done _

namespace Core

/-! ## The stack -/

/-- The word on the stack at an address. -/
def watchedLoad (c : Core) (address : UInt32) : Attempt UInt32 :=
  .touch (.stack address) (c.load address)

/-- The core with words on the stack from an address on. -/
def watchedStoreAll (c : Core) (address : UInt32) : List UInt32 → Attempt Core
  | [] => .done (.ok c)
  | value :: rest => do
    let c ← .touch (.stack address) (c.store address value)
    let address ← .sum address 4
    c.watchedStoreAll address rest

/-- The core with registers taken off the stack from an address on, and the address after them. -/
def watchedLoadAll (c : Core) (address : UInt32) : List LowRegister → Attempt (Core × UInt32)
  | [] => .done (.ok (c, address))
  | r :: rest => do
    let value ← c.watchedLoad address
    let address ← .sum address 4
    (c.put r.up value).watchedLoadAll address rest

/-! ## Instructions -/

/-- The value of a register as an instruction reads it. -/
def watchedRead (c : Core) (r : Register) : Attempt UInt32 :=
  if r = .pc then .sum (c.registers.get Register.pc) 2 else .done (.ok (c.registers.get r))

/-- The core with a shifted word in a register. -/
def putShifted (c : Core) (r : Register) (result : UInt32 × Bool) : Core :=
  { c with flags := { c.flags with carry := result.2 } }.putDescribed r result.1

/-- The core after an instruction, the program counter being at the next one. Branches start at
the address `ahead`. -/
def watchedExecute (code : Array UInt8) (c : Core) (ahead : UInt32) : Instruction → Attempt Core
  | .shift kind target source amount => do
    let result ← kind.watchedApply (c.registers.get source.up) amount c.flags.carry
    .done (.ok (c.putShifted target.up result))
  | .operate (.shift kind) target source => do
    let amount := (c.registers.get source.up &&& 0xFF).toNat
    let result ← kind.watchedApply (c.registers.get target.up) amount c.flags.carry
    .done (.ok (c.putShifted target.up result))
  | .addHigh target source => do
    let left ← c.watchedRead target
    let right ← c.watchedRead source
    .done <| if target = .pc then c.jumpTo code (left + right) else .ok (c.put target (left + right))
  | .compareHigh left right => do
    let left ← c.watchedRead left
    let right ← c.watchedRead right
    .done (.ok { c with flags := (subFlags left right).2 })
  | .moveHigh target source => do
    let value ← c.watchedRead source
    .done <| if target = .pc then c.jumpTo code value else .ok (c.put target value)
  | .exchange source link => do
    let target ← c.watchedRead source
    .done <| (if link then c.put .lr (c.registers.get Register.pc ||| 1) else c).jumpTo code target
  | .push registers link =>
    let lower := registers.map fun r => c.registers.get r.up
    let values := if link then lower ++ [c.registers.get Register.lr] else lower
    let address := c.registers.get Register.sp - 4 * .ofNat values.length
    (c.put .sp address).watchedStoreAll address values
  | .pop registers jump => do
    let (c, address) ← c.watchedLoadAll (c.registers.get Register.sp) registers
    if jump then
      let target ← c.watchedLoad address
      let address ← .sum address 4
      .done ((c.put .sp address).jumpTo code target)
    else .done (.ok (c.put .sp address))
  | .branchIf condition offset =>
    .done <| if condition.holds c.flags then c.jumpTo code (ahead + offset) else .ok c
  | .branch offset => .done (c.jumpTo code (ahead + offset))
  | i => .done (c.execute code i)

/-- The half word at an address; without one there is a fault. -/
def fetch (code : Array UInt8) (address : UInt32) : Except Halt UInt16 :=
  (fetch? code address).elim (.error .fault) .ok

/-- The core after the instruction at its program counter. -/
def watchedStep (code : Array UInt8) (c : Core) : Attempt Core := do
  let address := c.registers.get Register.pc
  let op ← .touch (.code address) (fetch code address)
  let following ← .sum address 2
  let ahead ← .sum address 4
  match Instruction.decode op with
  | some i => (c.put .pc following).watchedExecute code ahead i
  | none => .done (.error .fault)

/-! ## Calls -/

/-- A core before the first instruction, which has its later four arguments put on the stack. -/
def watchedStart (arguments : Vector Int32 Arguments.codeCount) : Attempt Core :=
  let c : Core := { start arguments with stack := Vector.replicate stackWords 0 }
  c.watchedStoreAll (stackBase + 4 * 252) ((arguments.toList.drop 4).map Int32.toUInt32)

/-- The value that a run of at most `budget` instructions returns, the first of them being number
`count`. -/
def watchedRun (code : Array UInt8) (cancelled : Nat → Bool) :
    (budget count : Nat) → Core → Guarded (Except Status Int32)
  | 0, _, _ => pure (.error .execution)
  | budget + 1, count, c =>
    if cancelled count then pure (.error .timeout)
    else do
      match ← (c.watchedStep code).run with
      | .ok c => watchedRun code cancelled budget (count + 1) c
      | .error (.returned value) => pure (.ok value.toInt32)
      | .error .fault => pure (.error .execution)

/-- What a call of code returns. -/
def watchedInvoke (code : Bytes) (arguments : Vector Int32 Arguments.codeCount)
    (cancelled : Nat → Bool) (budget : Nat) : Guarded (Except Status Int32) :=
  if accepts code then do
    match ← (watchedStart arguments).run with
    | .ok c => watchedRun code.toArray cancelled budget 0 c
    | .error _ => pure (.error .execution)
  else pure (.error .parameter)

end Core

end Coprocessor.Thumb
