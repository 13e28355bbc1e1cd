/-!
# Errors of the operating system

The errors that files and sockets give here, with the texts that the system has
for them.
-/

namespace Coprocessor

/-- An error of the operating system. -/
inductive SystemError where
  /-- There is no such file. -/
  | notFound
  /-- What a path goes on from is a file. -/
  | notDirectory
  /-- What is to be read is a directory. -/
  | isDirectory
  /-- A name or path is too long. -/
  | nameTooLong
  /-- Something listens at the address already. -/
  | addressInUse
  /-- There is no way to the address. -/
  | networkUnreachable
  /-- Nothing listens at the address. -/
  | connectionRefused
  deriving DecidableEq, Repr

namespace SystemError

/-- The number of the error. -/
def number : SystemError → Nat
  | notFound => 2
  | notDirectory => 20
  | isDirectory => 21
  | nameTooLong => 36
  | addressInUse => 98
  | networkUnreachable => 101
  | connectionRefused => 111

/-- The text for the error. -/
def text : SystemError → String
  | notFound => "No such file or directory"
  | notDirectory => "Not a directory"
  | isDirectory => "Is a directory"
  | nameTooLong => "File name too long"
  | addressInUse => "Address already in use"
  | networkUnreachable => "Network is unreachable"
  | connectionRefused => "Connection refused"

/-- The text in messages. -/
def message (e : SystemError) : String :=
  s!"{e.text} (os error {e.number})"

end SystemError

end Coprocessor
