import Coprocessor.CommandLine.Device
import Coprocessor.CommandLine.Host
import Coprocessor.Host.Loopback

/-!
# The programs

`coprpc` is a host and `copro-device` a device; the first argument says which of
them runs. The loopback addresses of the host reach a simulated device inside the
program. The device is on the link of its standard input and output, and is
interrupted by the end of the input.
-/

namespace Coprocessor.Main

open CommandLine

/-- The name of the program of a host. -/
def hostName : String := "coprpc"

/-- The name of the program of a device. -/
def deviceName : String := "copro-device"

/-- What the log shows. There is no clock here that knows the date. -/
def logSettings : IO Log.Settings := do
  return { Log.Settings.ofEnvironment (← IO.getEnv Log.variableName) with showTime := false }

/-- Writes what a program has left behind, and gives its exit status. -/
def conclude (o : Outcome) : IO UInt32 := do
  IO.print o.output
  IO.eprint (o.diagnostics (← logSettings) "")
  return o.exit

/-- Why a file could not be read. A file that is open and has no content is a directory. -/
def reasonOf : IO.Error → SystemError
  | .inappropriateType none .. => .isDirectory
  | .inappropriateType (some _) .. => .notDirectory
  | .invalidArgument .. => .nameTooLong
  | _ => .notFound

/-- The file of an action, if it has one. -/
def fileOf (arguments : List String) : IO (Except SystemError Bytes) :=
  match (HostOrder.ofArguments arguments).toOption.bind (·.action.path?) with
  | none => return .error .notFound
  | some path =>
    try return .ok (← IO.FS.readBinFile path).toList
    catch e => return .error (reasonOf e)

/-- The link to a simulated device. -/
def simulated : Host.Line (Host.Loopback Pins.Bank Handoff.Emulation) where
  react := Host.Loopback.react
  far := { server := DeviceOrder.server { address := ⟨.octets 127 0 0 1, 0⟩ } }

/-- The link to an address. -/
def connect (a : SocketAddress) :
    Except SystemError (Host.Line (Host.Loopback Pins.Bank Handoff.Emulation)) :=
  if a.isLoopback then .ok simulated
  else if a.isMulticast then .error .networkUnreachable
  else .error .connectionRefused

/-- The program of a host. -/
def host (arguments : List String) : IO UInt32 := do
  let file ← fileOf arguments
  conclude (runHost hostName (fun _ => file) connect arguments).1

/-- Serves the standard input until it ends. -/
partial def serve (start : Nat) (d : Host.Loopback Pins.Bank Handoff.Emulation) : IO Unit := do
  let s ← (← IO.getStdin).read 4096
  if s.isEmpty then return
  let ((arrivals, entries), d) := d.react ((← IO.monoNanosNow) - start) s.toList
  let stdout ← IO.getStdout
  stdout.write ⟨(Link.received arrivals).toArray⟩
  stdout.flush
  IO.eprint (Log.render (← logSettings) "" entries)
  serve start d

/-- The program of a device. -/
def device (arguments : List String) : IO UInt32 := do
  match startDevice deviceName .ok arguments with
  | .ended o => conclude o
  | .listens o _ entries =>
    IO.eprint (Log.render (← logSettings) "" entries)
    serve (← IO.monoNanosNow) { server := o.server }
    conclude { entries := [DeviceOrder.interruptedEntry] }

end Coprocessor.Main

/-- Runs the program that the first argument names, a host unless it names a device. -/
def main (arguments : List String) : IO UInt32 :=
  match arguments with
  | name :: rest =>
    if name = Coprocessor.Main.deviceName then Coprocessor.Main.device rest
    else Coprocessor.Main.host rest
  | [] => Coprocessor.Main.host []
