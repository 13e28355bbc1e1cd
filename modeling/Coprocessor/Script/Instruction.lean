import Coprocessor.Numeral
import Coprocessor.Pins.Mode
import Coprocessor.Script.Keyword
import Coprocessor.Script.Program

/-!
# Instructions

What a statement does. The keyword is the text up to the first blank or comma, and
the operands are what blanks and commas separate after it. An operand is a
register `R0` to `R15`, a word for a level, or a numeral. A statement with an
unknown keyword, or without an operand that it needs, does nothing, and operands
beyond those it has are ignored.
-/

namespace Coprocessor.Script

/-- One of the sixteen registers. -/
abbrev Register := Fin 16

/-- The register a token names : `R` and a number of one or two digits. -/
def register? : Bytes → Option Register
  | first :: digits =>
    if Ascii.fold first = 0x72 && digits.length ∈ [1, 2] && digits.all Ascii.isDigit then
      let number := digits.foldl (fun n d => n * 10 + (d - 0x30).toNat) 0
      if h : number < 16 then some ⟨number, h⟩ else none
    else none
  | [] => none

/-- A value known when the statement is reached. -/
inductive Operand where
  /-- What a register holds. -/
  | register (r : Register)
  /-- A constant. -/
  | constant (value : Int32)
  deriving DecidableEq, Repr

/-- The value a token stands for. -/
def Operand.read (token : Bytes) : Operand :=
  match register? token with
  | some r => .register r
  | none =>
    if Ascii.isWord "HIGH" token || Ascii.isWord "TRUE" token then .constant 1
    else if Ascii.isWord "LOW" token || Ascii.isWord "FALSE" token then .constant 0
    else .constant (Numeral.read token)

/-- The end of a word that is shifted out first. -/
inductive BitOrder where
  /-- The most significant bit. -/
  | mostFirst
  /-- The least significant bit. -/
  | leastFirst
  deriving DecidableEq, Repr

/-- What a statement does. -/
inductive Instruction where
  /-- Nothing. -/
  | skip
  /-- Sets a register. -/
  | setRegister (target : Register) (value : Operand)
  /-- Adds to a register. -/
  | add (target : Register) (value : Operand)
  /-- Subtracts from a register. -/
  | subtract (target : Register) (value : Operand)
  /-- Copies a register. -/
  | move (target source : Register)
  /-- Sets the mode of a pin. -/
  | pinMode (pin : Operand) (mode : Pins.Mode)
  /-- Drives a pin high unless the value is zero. -/
  | digitalWrite (pin value : Operand)
  /-- Reads whether a pin is high into a register. -/
  | digitalRead (pin : Operand) (target : Register)
  /-- Drives a pin to a value. -/
  | analogWrite (pin value : Operand)
  /-- Reads the value of a pin into a register. -/
  | analogRead (pin : Operand) (target : Register)
  /-- Shifts the lower bits of a value out over a data pin and a clock pin, the latch
  pin held low meanwhile. -/
  | shiftOut (data clock latch value bits : Operand) (order : BitOrder)
  /-- Waits for milliseconds. -/
  | waitMillis (n : Operand)
  /-- Waits for microseconds. -/
  | waitMicros (n : Operand)
  /-- Empties the mailbox. -/
  | mailboxClear
  /-- Appends a text to the mailbox. -/
  | mailboxAppend (text : Bytes)
  /-- Ends the run with a value. -/
  | ret (value : Operand)
  /-- Goes on at a statement, or at the next one if the label is bound to none. -/
  | jump (target : Option Nat)
  /-- Goes on at a statement if a comparison holds. -/
  | branch (left : Operand) (comparison : Comparison) (right : Operand) (target : Option Nat)
  deriving DecidableEq, Repr

namespace Instruction

/-! ## Reading -/

/-- Whether operands end before a byte. -/
def endsOperand (b : UInt8) : Bool :=
  Ascii.isBlank b || b == 0x2C

/-- The text between the first double quote and the next one or the end. -/
def quoted? (text : Bytes) : Option Bytes :=
  match text.dropWhile (· != 0x22) with
  | _ :: rest => some (rest.takeWhile (· != 0x22))
  | [] => none

/-- Whether a token tells the order of bits, and which. -/
def order? (token : Bytes) : Option BitOrder :=
  if Ascii.isWord "MSBFIRST" token then some .mostFirst
  else if Ascii.isWord "LSBFIRST" token then some .leastFirst
  else none

/-- A shift with the options of `tokens`, of which a later one wins. -/
def withOptions (data clock latch value bits : Operand) (order : BitOrder) :
    List Bytes → Instruction
  | [] => .shiftOut data clock latch value bits order
  | token :: rest =>
    match order? token with
    | some order => withOptions data clock latch value bits order rest
    | none => withOptions data clock latch value (.read token) order rest

/-- What a keyword does with the text after it and the operands in that text, where
`resolve` tells the statements that labels are bound to; none if the operands are not
what it needs. -/
def ofKeyword? (resolve : Bytes → Option Nat) (text : Bytes) :
    Keyword → List Bytes → Option Instruction
  | .setRegister, rd :: e :: _ => return .setRegister (← register? rd) (.read e)
  | .add, rd :: e :: _ => return .add (← register? rd) (.read e)
  | .subtract, rd :: e :: _ => return .subtract (← register? rd) (.read e)
  | .move, rd :: rs :: _ => return .move (← register? rd) (← register? rs)
  | .pinMode, pin :: mode :: _ => some (.pinMode (.read pin) (.read mode))
  | .digitalWrite, pin :: e :: _ => some (.digitalWrite (.read pin) (.read e))
  | .digitalRead, pin :: rd :: _ => return .digitalRead (.read pin) (← register? rd)
  | .analogWrite, pin :: e :: _ => some (.analogWrite (.read pin) (.read e))
  | .analogRead, pin :: rd :: _ => return .analogRead (.read pin) (← register? rd)
  | .shiftOut, data :: clock :: latch :: e :: options =>
    some <| withOptions (.read data) (.read clock) (.read latch) (.read e) (.constant 8) .mostFirst
      (options.take 2)
  | .waitMillis, e :: _ => some (.waitMillis (.read e))
  | .waitMicros, e :: _ => some (.waitMicros (.read e))
  | .mailboxClear, _ => some .mailboxClear
  | .mailboxAppend, _ => (quoted? text).map .mailboxAppend
  | .ret, [] => some (.ret (.constant 0))
  | .ret, e :: _ => some (.ret (.read e))
  | .jump, label :: _ => some (.jump (resolve label))
  | .branch, left :: comparison :: right :: go :: label :: _ =>
    if Ascii.isWord "GOTO" go then
      (Comparison.ofToken? comparison).map fun c =>
        .branch (.read left) c (.read right) (resolve label)
    else none
  | _, _ => none

/-- What a statement does. -/
def read (resolve : Bytes → Option Nat) (statement : Bytes) : Instruction :=
  let text := statement.dropWhile fun b => !endsOperand b
  let found := do
    let keyword ← Keyword.ofWord? (statement.takeWhile fun b => !endsOperand b)
    ofKeyword? resolve text keyword (Ascii.tokens endsOperand text)
  found.getD .skip

end Instruction

/-- What the statements of a program do. -/
def Program.instructions (p : Program) : Array Instruction :=
  p.statements.map fun s => Instruction.read p.resolve s.text

end Coprocessor.Script
