import Coprocessor.Arguments
import Coprocessor.Mailbox
import Coprocessor.Pins.Board
import Coprocessor.Script.Instruction

/-!
# Running scripts

A run has sixteen registers, a mailbox and a board. It begins with the arguments
in the registers and does one statement after the other. Before each statement it
looks at the time that has passed and at the cancel flag. It ends when there is no
next statement, when the time is over, when it is cancelled, or when a statement
returns a value.

The machine does not know what time is. Whoever runs it gives a sample before
each statement, so what a run does is a function of the samples.
-/

namespace Coprocessor.Script

/-- What a script works on. -/
structure Machine (σ : Type) where
  /-- The registers. -/
  registers : Vector Int32 16
  /-- The mailbox. -/
  mailbox : Mailbox
  /-- The state of the board. -/
  pins : σ

/-- Where a run goes on after a statement. -/
inductive Flow where
  /-- At the next statement. -/
  | next
  /-- At a numbered statement, if there is one. -/
  | jump (target : Option Nat)
  /-- Nowhere. -/
  | ret (value : Int32)
  deriving DecidableEq, Repr

namespace Machine

variable {σ : Type}

/-- A machine with arguments in its registers, zeros in those without one. -/
def load (arguments : List Int32) (mailbox : Mailbox) (pins : σ) : Machine σ where
  registers := Arguments.padded Arguments.scriptCount arguments
  mailbox := mailbox
  pins := pins

/-- The value of an operand. -/
def eval (m : Machine σ) : Operand → Int32
  | .register r => m.registers.get r
  | .constant value => value

/-- The machine with a value in a register. -/
def put (m : Machine σ) (r : Register) (value : Int32) : Machine σ :=
  { m with registers := m.registers.set r.val value r.isLt }

/-- The machine after an action on the pins. -/
def act (board : Pins.Board σ) (a : Pins.Action) (m : Machine σ) : Machine σ :=
  { m with pins := board.act a m.pins }

/-! ## Shifting out -/

/-- The places of the lower `n` bits, in the order in which they are shifted out. -/
def bitPlaces (n : Nat) : BitOrder → List Nat
  | .mostFirst => (List.range n).reverse
  | .leastFirst => List.range n

/-- The number of bits that an operand asks for, between 1 and 32. -/
def bitCount (bits : Int32) : Nat :=
  (max 1 (min bits.toInt 32)).toNat

/-- The actions that shift out one bit : the bit on the data pin, and a pulse on the
clock pin. -/
def bitActions (data clock value : Int32) (place : Nat) : List Pins.Action :=
  [.digital data (value.toUInt32.toNat.testBit place), .digital clock true, .waitMicros 1,
    .digital clock false, .waitMicros 1]

/-- The actions that shift out a value. -/
def shiftActions (data clock latch value : Int32) (bits : Nat) (order : BitOrder) :
    List Pins.Action :=
  .digital latch false :: (bitPlaces bits order).flatMap (bitActions data clock value) ++
    [.digital latch true]

/-! ## One statement -/

/-- The time that a wait for a number takes, none for a negative one. -/
def waitTime (n : Int32) : UInt32 :=
  if n < 0 then 0 else n.toUInt32

/-- What a statement does, and where the run goes on. -/
def execute (board : Pins.Board σ) (m : Machine σ) (i : Instruction) : Flow × Machine σ :=
  match i with
  | .skip => (.next, m)
  | .setRegister rd e => (.next, m.put rd (m.eval e))
  | .add rd e => (.next, m.put rd (m.registers.get rd + m.eval e))
  | .subtract rd e => (.next, m.put rd (m.registers.get rd - m.eval e))
  | .move rd rs => (.next, m.put rd (m.registers.get rs))
  | .pinMode pin mode => (.next, m.act board (.mode (m.eval pin) mode))
  | .digitalWrite pin e => (.next, m.act board (.digital (m.eval pin) (m.eval e ≠ 0)))
  | .digitalRead pin rd =>
    let (high, pins) := board.digitalRead (m.eval pin) m.pins
    (.next, { m with pins }.put rd (if high then 1 else 0))
  | .analogWrite pin e => (.next, m.act board (.analog (m.eval pin) (m.eval e)))
  | .analogRead pin rd =>
    let (value, pins) := board.analogRead (m.eval pin) m.pins
    (.next, { m with pins }.put rd value)
  | .shiftOut data clock latch e bits order =>
    let actions := shiftActions (m.eval data) (m.eval clock) (m.eval latch) (m.eval e)
      (bitCount (m.eval bits)) order
    (.next, { m with pins := actions.foldl (fun s a => board.act a s) m.pins })
  | .waitMillis n => (.next, m.act board (.waitMillis (waitTime (m.eval n))))
  | .waitMicros n => (.next, m.act board (.waitMicros (waitTime (m.eval n))))
  | .mailboxClear => (.next, { m with mailbox := m.mailbox.clear })
  | .mailboxAppend text => (.next, { m with mailbox := m.mailbox.append text })
  | .ret e => (.ret (m.eval e), m)
  | .jump target => (.jump target, m)
  | .branch left comparison right target =>
    if comparison.holds (m.eval left) (m.eval right) then (.jump target, m) else (.next, m)

end Machine

/-! ## Runs -/

/-- How a run ended. -/
inductive Ending where
  /-- A statement returned a value. -/
  | returned
  /-- There was no next statement. -/
  | fellOffEnd
  /-- The time was over. -/
  | timedOut
  /-- The cancel flag was raised. -/
  | cancelled
  deriving DecidableEq, Repr

/-- The one-word name of an ending. -/
def Ending.name : Ending → String
  | returned => "Returned"
  | fellOffEnd => "FellOffEnd"
  | timedOut => "TimedOut"
  | cancelled => "Cancelled"

/-- Whether the script came to an end of its own. -/
def Ending.isSuccess (e : Ending) : Bool :=
  e == .returned || e == .fellOffEnd

/-- What came of a run. -/
structure Outcome where
  /-- The value returned, or zero. -/
  value : Int32
  /-- How the run ended. -/
  ending : Ending
  /-- The number of statements done. -/
  steps : Nat
  deriving DecidableEq, Repr

/-- What a run sees before a statement. -/
structure Sample where
  /-- The time since the run began, in microseconds. -/
  elapsed : Nat
  /-- Whether the cancel flag is raised. -/
  cancelled : Bool
  deriving DecidableEq, Repr

/-- Whether more time has passed than a run with a time limit in milliseconds may
take; a limit of zero is none. -/
def Sample.isLate (s : Sample) (limit : UInt32) : Bool :=
  limit ≠ 0 && limit.toNat * 1000 < s.elapsed

/-- A run that has not ended. -/
structure Run (σ : Type) where
  /-- What it works on. -/
  machine : Machine σ
  /-- The number of the next statement. -/
  counter : Nat
  /-- The number of statements done. -/
  steps : Nat

namespace Run

variable {σ : Type}

/-- A run before its first statement. -/
def start (machine : Machine σ) : Run σ :=
  ⟨machine, 0, 0⟩

/-- The number of the statement to go on at from the one numbered `counter`, of `count`
in all. -/
def follow (count counter : Nat) : Option Nat → Nat
  | some target => if target < count then target else counter + 1
  | none => counter + 1

/-- The run after one statement, or its outcome, given what it sees before. -/
def step (board : Pins.Board σ) (code : Array Instruction) (limit : UInt32) (sample : Sample)
    (r : Run σ) : (Outcome × Machine σ) ⊕ Run σ :=
  match code[r.counter]? with
  | none => .inl (⟨0, .fellOffEnd, r.steps⟩, r.machine)
  | some i =>
    if sample.isLate limit then .inl (⟨0, .timedOut, r.steps⟩, r.machine)
    else if sample.cancelled then .inl (⟨0, .cancelled, r.steps⟩, r.machine)
    else match r.machine.execute board i with
      | (.ret value, m) => .inl (⟨value, .returned, r.steps + 1⟩, m)
      | (.jump target, m) => .inr ⟨m, follow code.size r.counter target, r.steps + 1⟩
      | (.next, m) => .inr ⟨m, r.counter + 1, r.steps + 1⟩

/-- The outcome of a run that ends within `fuel` steps, `watch` giving the samples. -/
def finish (board : Pins.Board σ) (code : Array Instruction) (limit : UInt32)
    (watch : Run σ → Sample) : Nat → Run σ → Option (Outcome × Machine σ)
  | 0, _ => none
  | fuel + 1, r =>
    match r.step board code limit (watch r) with
    | .inl done => some done
    | .inr r => finish board code limit watch fuel r

end Run

end Coprocessor.Script
