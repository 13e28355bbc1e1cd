import Coprocessor.Pins.Mode

/-!
# Boards

A program acts on pins and waits, and it reads levels. A board is any way to do
that over a state of its own : what a reading gives may depend on all that was
done before. `Board.logged` adds a log to a board and changes nothing else
(`Board.logged_act`, `Board.logged_digitalRead`, `Board.logged_analogRead`).
-/

namespace Coprocessor.Pins

/-- What a program does to a board. -/
inductive Action where
  /-- Sets the mode of a pin. -/
  | mode (pin : Int32) (mode : Mode)
  /-- Drives a pin high or low. -/
  | digital (pin : Int32) (high : Bool)
  /-- Drives a pin to a value. -/
  | analog (pin : Int32) (value : Int32)
  /-- Waits for microseconds. -/
  | waitMicros (n : UInt32)
  /-- Waits for milliseconds. -/
  | waitMillis (n : UInt32)
  deriving DecidableEq, Repr

/-- The time an action waits, in microseconds. -/
def Action.micros : Action → Nat
  | .waitMicros n => n.toNat
  | .waitMillis n => n.toNat * 1000
  | _ => 0

/-- A board with states of type `σ`. -/
structure Board (σ : Type) where
  /-- The state after an action. -/
  act : Action → σ → σ
  /-- Whether a pin reads high. -/
  digitalRead : Int32 → σ → Bool × σ
  /-- The value a pin reads as. -/
  analogRead : Int32 → σ → Int32 × σ

/-- One use of a board. -/
inductive Use where
  /-- An action. -/
  | action (a : Action)
  /-- A digital reading of a pin. -/
  | digitalRead (pin : Int32)
  /-- An analog reading of a pin. -/
  | analogRead (pin : Int32)
  deriving DecidableEq, Repr

namespace Board

/-- The board with a log of its uses, the newest first. -/
def logged (b : Board σ) : Board (σ × List Use) where
  act a s := (b.act a s.1, .action a :: s.2)
  digitalRead pin s :=
    let (high, next) := b.digitalRead pin s.1
    (high, next, .digitalRead pin :: s.2)
  analogRead pin s :=
    let (value, next) := b.analogRead pin s.1
    (value, next, .analogRead pin :: s.2)

theorem logged_act (b : Board σ) (a : Action) (s : σ × List Use) :
    b.logged.act a s = (b.act a s.1, .action a :: s.2) :=
  rfl

theorem logged_digitalRead (b : Board σ) (pin : Int32) (s : σ × List Use) :
    (b.logged.digitalRead pin s).1 = (b.digitalRead pin s.1).1 ∧
      (b.logged.digitalRead pin s).2.1 = (b.digitalRead pin s.1).2 :=
  ⟨rfl, rfl⟩

theorem logged_analogRead (b : Board σ) (pin : Int32) (s : σ × List Use) :
    (b.logged.analogRead pin s).1 = (b.analogRead pin s.1).1 ∧
      (b.logged.analogRead pin s).2.1 = (b.analogRead pin s.1).2 :=
  ⟨rfl, rfl⟩

end Board

end Coprocessor.Pins
