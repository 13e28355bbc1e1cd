import Coprocessor.Pins.Board

/-!
# Pin banks

A bank is a board in memory. A pin reads as the last value that was written to it
or driven onto it from outside; before that it reads as zero, except that a pin
with a pull-up reads high. A bank may keep a record of the actions, and it counts
the time that programs have waited if its waits take time at all.
-/

namespace Coprocessor.Pins

/-- What a bank records. -/
inductive Recording where
  /-- Nothing. -/
  | nothing
  /-- Modes and writes. -/
  | writes
  /-- Modes, writes and waits. -/
  | everything
  deriving DecidableEq, Repr

/-- Whether an action goes into the record. -/
def Recording.keeps : Recording → Action → Bool
  | nothing, _ => false
  | everything, _ => true
  | writes, .waitMicros _ | writes, .waitMillis _ => false
  | writes, _ => true

/-- A bank of pins. -/
structure Bank where
  /-- The values on the pins that have one. -/
  levels : List (Int32 × Int32) := []
  /-- The modes of the pins that were given one. -/
  modes : List (Int32 × Mode) := []
  /-- The actions recorded since they were last taken out, the newest first. -/
  record : List Action := []
  /-- What is recorded. -/
  recording : Recording := .nothing
  /-- Whether waits take time. -/
  waits : Bool := true
  /-- The time that waits have taken, in microseconds. -/
  waited : Nat := 0
  deriving DecidableEq, Repr

namespace Bank

/-- The table with a value at a pin. -/
def put (pin : Int32) (value : α) : List (Int32 × α) → List (Int32 × α)
  | [] => [(pin, value)]
  | (p, v) :: rest => if p = pin then (pin, value) :: rest else (p, v) :: put pin value rest

/-- The value at a pin, if it has one. -/
def level (b : Bank) (pin : Int32) : Option Int32 :=
  b.levels.lookup pin

/-- The mode of a pin, if it was given one. -/
def mode (b : Bank) (pin : Int32) : Option Mode :=
  b.modes.lookup pin

/-- The bank with a value driven onto a pin from outside. -/
def drive (pin value : Int32) (b : Bank) : Bank :=
  { b with levels := put pin value b.levels }

/-- What an action does to the pins. -/
def apply (a : Action) (b : Bank) : Bank :=
  match a with
  | .mode pin mode => { b with modes := put pin mode b.modes }
  | .digital pin high => b.drive pin (if high then 1 else 0)
  | .analog pin value => b.drive pin value
  | .waitMicros _ | .waitMillis _ => if b.waits then { b with waited := b.waited + a.micros } else b

/-- The bank after an action. -/
def act (a : Action) (b : Bank) : Bank :=
  let b := b.apply a
  if b.recording.keeps a then { b with record := a :: b.record } else b

/-- Whether a pin reads high. -/
def digitalRead (pin : Int32) (b : Bank) : Bool :=
  match b.level pin with
  | some value => value ≠ 0
  | none => b.mode pin = some .inputPullup

/-- The value a pin reads as. -/
def analogRead (pin : Int32) (b : Bank) : Int32 :=
  (b.level pin).getD 0

/-- The recorded actions, the oldest first. -/
def events (b : Bank) : List Action :=
  b.record.reverse

/-- The bank with an empty record. -/
def forget (b : Bank) : Bank :=
  { b with record := [] }

/-- Banks as boards : reading changes nothing. -/
def board : Board Bank where
  act := act
  digitalRead pin b := (b.digitalRead pin, b)
  analogRead pin b := (b.analogRead pin, b)

end Bank

end Coprocessor.Pins
