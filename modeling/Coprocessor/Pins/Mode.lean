import Coprocessor.Numeral

/-!
# Pin modes

The direction of a pin and what it reads as when nothing drives it. A mode is
written as a word or as a number; a number without a meaning here is passed on to
the board.
-/

namespace Coprocessor.Pins

/-- The mode of a pin. -/
inductive Mode where
  /-- Read, floating. -/
  | input
  /-- Written. -/
  | output
  /-- Read, high unless driven low. -/
  | inputPullup
  /-- Read, low unless driven high. -/
  | inputPulldown
  /-- A mode of the board. -/
  | other (number : Int32)
  deriving DecidableEq, Repr

namespace Mode

/-- The mode with a number. -/
def ofNumber (n : Int32) : Mode :=
  if n = 0 then .input
  else if n = 1 then .output
  else if n = 2 then .inputPullup
  else if n = 3 then .inputPulldown
  else .other n

/-- The words for modes. -/
def words : List (String × Mode) :=
  [("IN", .input), ("INPUT", .input), ("OUT", .output), ("OUTPUT", .output),
    ("INPU", .inputPullup), ("PULLUP", .inputPullup), ("INPD", .inputPulldown),
    ("PULLDOWN", .inputPulldown)]

/-- The mode a token stands for : a word up to case, or else a numeral. -/
def read (token : Bytes) : Mode :=
  match words.find? fun w => Ascii.isWord w.1 token with
  | some (_, mode) => mode
  | none => ofNumber (Numeral.read token)

end Mode

end Coprocessor.Pins
