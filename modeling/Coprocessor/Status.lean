/-!
# Status codes

The outcome a reply begins with. On the wire a status is its code, zero or a
small negative number.
-/

namespace Coprocessor

/-- The outcome of a request. -/
inductive Status where
  /-- Done. -/
  | ok
  /-- The frame does not begin with the magic. -/
  | badMagic
  /-- The frame is of another protocol version. -/
  | badVersion
  /-- No command has this code. -/
  | badCommand
  /-- A field of the request is missing or malformed. -/
  | parameter
  /-- The request cannot be served now. -/
  | state
  /-- No room for the content. -/
  | noMemory
  /-- A length does not fit. -/
  | size
  /-- A checksum does not match. -/
  | checksum
  /-- A job did not end in time, or was cancelled. -/
  | timeout
  /-- A job failed. -/
  | execution
  deriving DecidableEq, Repr

namespace Status

/-- Every status, in the order of the codes from zero down. -/
def all : List Status :=
  [.ok, .badMagic, .badVersion, .badCommand, .parameter, .state, .noMemory, .size, .checksum,
    .timeout, .execution]

/-- The code on the wire. -/
def code : Status → Int32
  | .ok => 0
  | .badMagic => -1
  | .badVersion => -2
  | .badCommand => -3
  | .parameter => -4
  | .state => -5
  | .noMemory => -6
  | .size => -7
  | .checksum => -8
  | .timeout => -9
  | .execution => -10

/-- The status with a code. -/
def ofCode? (code : Int32) : Option Status :=
  all.find? (·.code == code)

/-- The one-word name. -/
def name : Status → String
  | .ok => "Ok"
  | .badMagic => "BadMagic"
  | .badVersion => "BadVersion"
  | .badCommand => "BadCmd"
  | .parameter => "Param"
  | .state => "State"
  | .noMemory => "NoMem"
  | .size => "Size"
  | .checksum => "Crc"
  | .timeout => "Timeout"
  | .execution => "Exec"

/-- The text in messages. -/
def message : Status → String
  | .ok => "ok"
  | .badMagic => "bad magic"
  | .badVersion => "bad version"
  | .badCommand => "unknown command"
  | .parameter => "malformed or missing parameter"
  | .state => "operation not valid in current state"
  | .noMemory => "out of memory"
  | .size => "length mismatch or overflow"
  | .checksum => "crc mismatch"
  | .timeout => "timed out"
  | .execution => "execution failed"

/-- Every status is in the table. -/
theorem mem_all (s : Status) : s ∈ all := by
  cases s <;> decide

/-- A status is found by its code. -/
theorem ofCode?_code (s : Status) : ofCode? s.code = some s := by
  cases s <;> decide

/-- The status found has the code looked for. -/
theorem code_of_ofCode? {c : Int32} {s : Status} (h : ofCode? c = some s) : s.code = c := by
  simpa using List.find?_some h

end Status

end Coprocessor
