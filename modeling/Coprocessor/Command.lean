import Coprocessor.Status

/-!
# Commands

What a host may ask of a device. A reply carries the code of its request with one
more bit, which no request code has.
-/

namespace Coprocessor

/-- A request of a host. -/
inductive Command where
  /-- Protocol version and capability bits. -/
  | hello
  /-- Flags, length of the code held and mailbox capacity. -/
  | info
  /-- Make room for code. -/
  | loadBegin
  /-- Append to the code. -/
  | loadData
  /-- Verify the code. -/
  | loadEnd
  /-- Run the code. -/
  | exec
  /-- The execution state. -/
  | status
  /-- Read the mailbox. -/
  | mailboxRead
  /-- Raise the cancel flag. -/
  | cancel
  /-- Drop everything that was loaded. -/
  | reset
  /-- Make room for a script. -/
  | scriptBegin
  /-- Append to the script. -/
  | scriptData
  /-- Verify the script. -/
  | scriptEnd
  /-- Run the script. -/
  | scriptExec
  /-- Call a function by its name. -/
  | func
  /-- Enter the programming mode, in which nothing is loaded or run. -/
  | ispEnter
  /-- Leave the programming mode. -/
  | ispExit
  deriving DecidableEq, Repr

namespace Command

/-- Every command, in the order of the table. -/
def all : List Command :=
  [.hello, .info, .loadBegin, .loadData, .loadEnd, .exec, .status, .mailboxRead, .cancel, .reset,
    .scriptBegin, .scriptData, .scriptEnd, .scriptExec, .func, .ispEnter, .ispExit]

/-- The code of a request. -/
def code : Command → UInt16
  | .hello => 0x01
  | .info => 0x02
  | .loadBegin => 0x10
  | .loadData => 0x11
  | .loadEnd => 0x12
  | .exec => 0x20
  | .status => 0x21
  | .mailboxRead => 0x22
  | .cancel => 0x23
  | .reset => 0x24
  | .scriptBegin => 0x30
  | .scriptData => 0x31
  | .scriptEnd => 0x32
  | .scriptExec => 0x33
  | .func => 0x40
  | .ispEnter => 0x60
  | .ispExit => 0x61

/-- The name in messages. -/
def name : Command → String
  | .hello => "HELLO"
  | .info => "INFO"
  | .loadBegin => "LOAD_BEGIN"
  | .loadData => "LOAD_DATA"
  | .loadEnd => "LOAD_END"
  | .exec => "EXEC"
  | .status => "STATUS"
  | .mailboxRead => "MAILBOX_RD"
  | .cancel => "CANCEL"
  | .reset => "RESET"
  | .scriptBegin => "SCRIPT_BEGIN"
  | .scriptData => "SCRIPT_DATA"
  | .scriptEnd => "SCRIPT_END"
  | .scriptExec => "SCRIPT_EXEC"
  | .func => "FUNC"
  | .ispEnter => "ISP_ENTER"
  | .ispExit => "ISP_EXIT"

/-- The bit that tells a reply from a request. -/
def replyBit : UInt16 := 0x80

/-- The code of a reply. -/
def replyCode (c : Command) : UInt16 :=
  c.code ||| replyBit

/-- The command with a request code. -/
def ofCode? (code : UInt16) : Option Command :=
  all.find? (·.code == code)

/-- Every command is in the table. -/
theorem mem_all (c : Command) : c ∈ all := by
  cases c <;> decide

/-- A command is found by its code. -/
theorem ofCode?_code (c : Command) : ofCode? c.code = some c := by
  cases c <;> decide

/-- No request code has the reply bit. -/
theorem code_and_not_replyBit (c : Command) : c.code &&& ~~~replyBit = c.code := by
  cases c <;> decide

/-- The command found has the code looked for. -/
theorem code_of_ofCode? {code : UInt16} {c : Command} (h : ofCode? code = some c) :
    c.code = code := by
  simpa using List.find?_some h

end Command

end Coprocessor
