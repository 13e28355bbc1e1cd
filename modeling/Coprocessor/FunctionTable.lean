import Coprocessor.Mailbox
import Coprocessor.Pins.Board
import Coprocessor.Status

/-!
# Function tables

The functions of a device that a host may call by name. A function works on
the mailbox and the board, takes a number of arguments or any number, and returns
an integer. A table has room for sixteen, with different names of at most 32 bytes.
-/

namespace Coprocessor

/-- A function over a board with states of type `σ`. -/
structure HostFunction (σ : Type) where
  /-- The name. -/
  name : String
  /-- The number of arguments; a negative one admits any number. -/
  arity : Int32
  /-- What the function does with its arguments, the mailbox and the board. -/
  call : List Int32 → Mailbox → σ → Int32 × Mailbox × σ

/-- Whether a function takes a number of arguments. -/
def HostFunction.takes (f : HostFunction σ) (count : Nat) : Bool :=
  f.arity < 0 || f.arity.toInt == count

/-- The functions of a device, in the order in which they were added. -/
abbrev FunctionTable (σ : Type) := List (HostFunction σ)

/-- Why a function was not added. -/
inductive FunctionError where
  /-- There is no room. -/
  | full (capacity : Nat)
  /-- There is one with this name. -/
  | duplicate (name : String)
  /-- The name is empty or too long. -/
  | badName (name : String)
  deriving DecidableEq, Repr

/-- The text in messages. -/
def FunctionError.message : FunctionError → String
  | full capacity => s!"function registry is full ({capacity} entries)"
  | duplicate name => s!"function `{name}` is already registered"
  | badName name => s!"invalid function name `{name}`"

namespace FunctionTable

variable {σ : Type}

/-- The number of functions there is room for. -/
def capacity : Nat := 16

/-- The greatest length of a name in bytes. -/
def maxName : Nat := 32

/-- Adds a function. The name is looked at first, then the room, then the other names. -/
def add (t : FunctionTable σ) (f : HostFunction σ) : Except FunctionError (FunctionTable σ) :=
  if f.name.isEmpty || maxName < f.name.utf8ByteSize then .error (.badName f.name)
  else if capacity ≤ t.length then .error (.full capacity)
  else if t.any (·.name == f.name) then .error (.duplicate f.name)
  else .ok (t ++ [f])

/-- Calls the function with a name. -/
def call (t : FunctionTable σ) (name : Bytes) (arguments : List Int32) (mailbox : Mailbox)
    (pins : σ) : Except Status (Int32 × Mailbox × σ) :=
  match t.find? fun f => Bytes.ofText f.name == name with
  | some f =>
    if f.takes arguments.length then .ok (f.call arguments mailbox pins) else .error .parameter
  | none => .error .parameter

/-- The functions that every device has : the sum of two numbers, the sum of any, reading
and writing a pin, and the length of the text in the mailbox. -/
def builtin (board : Pins.Board σ) : FunctionTable σ :=
  [{ name := "add", arity := 2
     call := fun arguments m s => (arguments.getD 0 0 + arguments.getD 1 0, m, s) },
   { name := "sum", arity := -1
     call := fun arguments m s => (arguments.foldl (· + ·) 0, m, s) },
   { name := "pin_read", arity := 1
     call := fun arguments m s =>
       let (high, s) := board.digitalRead (arguments.getD 0 0) s
       (if high then 1 else 0, m, s) },
   { name := "pin_write", arity := 2
     call := fun arguments m s =>
       (0, m, board.act (.digital (arguments.getD 0 0) (arguments.getD 1 0 ≠ 0)) s) },
   { name := "mb_len", arity := 0
     call := fun _ m s => (.ofNat m.length, m, s) }]

end FunctionTable

end Coprocessor
