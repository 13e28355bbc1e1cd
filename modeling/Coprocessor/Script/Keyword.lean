import Coprocessor.Bytes

/-!
# Keywords and comparisons

The words that statements begin with, and the comparisons of a conditional jump.
Keywords are recognised in either case; `PRINT` is another spelling of `MBAPP`.
-/

namespace Coprocessor.Script

/-- The word a statement begins with. -/
inductive Keyword where
  /-- Sets a register. -/
  | setRegister
  /-- Adds to a register. -/
  | add
  /-- Subtracts from a register. -/
  | subtract
  /-- Copies a register. -/
  | move
  /-- Sets the mode of a pin. -/
  | pinMode
  /-- Drives a pin high or low. -/
  | digitalWrite
  /-- Reads whether a pin is high. -/
  | digitalRead
  /-- Drives a pin to a value. -/
  | analogWrite
  /-- Reads the value of a pin. -/
  | analogRead
  /-- Shifts a word out bit by bit. -/
  | shiftOut
  /-- Waits for milliseconds. -/
  | waitMillis
  /-- Waits for microseconds. -/
  | waitMicros
  /-- Empties the mailbox. -/
  | mailboxClear
  /-- Appends a text to the mailbox. -/
  | mailboxAppend
  /-- Ends the run with a value. -/
  | ret
  /-- Goes on at a label. -/
  | jump
  /-- Goes on at a label if a comparison holds. -/
  | branch
  deriving DecidableEq, Repr

namespace Keyword

/-- Every spelling with its keyword; the first spelling of a keyword is its own. -/
def spellings : List (String × Keyword) :=
  [("LET", .setRegister), ("ADD", .add), ("SUB", .subtract), ("MOV", .move), ("PINMODE", .pinMode),
    ("DWRITE", .digitalWrite), ("DREAD", .digitalRead), ("AWRITE", .analogWrite),
    ("AREAD", .analogRead), ("SHIFTOUT", .shiftOut), ("DELAY", .waitMillis),
    ("DELAY_US", .waitMicros), ("MBCLR", .mailboxClear), ("MBAPP", .mailboxAppend),
    ("PRINT", .mailboxAppend), ("RET", .ret), ("GOTO", .jump), ("IF", .branch)]

/-- The keyword that a word spells, up to case. -/
def ofWord? (word : Bytes) : Option Keyword :=
  (spellings.find? fun s => Ascii.isWord s.1 word).map Prod.snd

/-- The keyword's own spelling. -/
def mnemonic (k : Keyword) : String :=
  ((spellings.find? fun s => s.2 == k).map Prod.fst).getD ""

end Keyword

/-- A comparison of two integers. -/
inductive Comparison where
  /-- Equal. -/
  | eq
  /-- Different. -/
  | ne
  /-- Less. -/
  | lt
  /-- Greater. -/
  | gt
  /-- At most. -/
  | le
  /-- At least. -/
  | ge
  deriving DecidableEq, Repr

namespace Comparison

/-- The comparison an operator stands for. -/
def ofToken? (token : Bytes) : Option Comparison :=
  if token = [0x3D, 0x3D] then some .eq
  else if token = [0x21, 0x3D] then some .ne
  else if token = [0x3C] then some .lt
  else if token = [0x3E] then some .gt
  else if token = [0x3C, 0x3D] then some .le
  else if token = [0x3E, 0x3D] then some .ge
  else none

/-- Whether the comparison holds. -/
def holds : Comparison → Int32 → Int32 → Bool
  | .eq, a, b => a == b
  | .ne, a, b => a != b
  | .lt, a, b => a < b
  | .gt, a, b => b < a
  | .le, a, b => a ≤ b
  | .ge, a, b => b ≤ a

end Comparison

end Coprocessor.Script
