import Coprocessor.CommandLine.Outcome
import Coprocessor.CommandLine.SocketAddress
import Coprocessor.Device.Server
import Coprocessor.Pins.Bank
import Coprocessor.SystemError

/-!
# The command line of a device

A device is told the address to listen at and its limits. Numbers are read
strictly here. It listens until it is interrupted.
-/

namespace Coprocessor.CommandLine

/-- What a device is told. -/
structure DeviceOrder where
  /-- The address to listen at. -/
  address : SocketAddress
  /-- The settings of the device. -/
  config : Device.Config := {}
  /-- How it reads and writes frames. -/
  framing : Framing := {}
  deriving DecidableEq, Repr

namespace DeviceOrder

/-- How the program is used. -/
def usage (program : String) : String :=
  "\n".intercalate [
    "Co-processor device simulator",
    "",
    "USAGE:",
    s!"    {program} <listen_addr> [OPTIONS]",
    "",
    "ARGS:",
    "    <listen_addr>            Local address to bind (e.g., 127.0.0.1:7000)",
    "",
    "OPTIONS:",
    "    --mailbox <bytes>        Mailbox capacity (default 256)",
    "    --max-blob <bytes>       Largest accepted blob (default 16384)",
    "    --max-script <bytes>     Largest accepted script (default 8192)",
    "    --timeout <ms>           Default exec budget when a request passes 0 (default 1000)",
    "    --trailing-crc           Write and expect a trailing CRC32 after each payload",
    "    --pace <chunk>:<ms>      Pause <ms> between <chunk>-byte pieces of each response",
    "    -h, --help               Print this help message",
    "",
    "ENVIRONMENT:",
    "    COPRO_LOG    Minimum log level: debug, info, warn, error (default info)",
    "",
    "EXAMPLES:",
    s!"    {program} 127.0.0.1:7000",
    s!"    {program} 0.0.0.0:7000 --mailbox 1024 --trailing-crc",
    ""]

/-! ## Options -/

/-- The number that a text is : digits, after a plus sign or not, below `2 ^ 32`. -/
def number? (s : String) : Option UInt32 :=
  let digits := if s.toList.head? == some '+' then s.toList.drop 1 else s.toList
  let value := digits.foldl (fun n c => n * 10 + (c.toNat - 0x30)) 0
  if digits.isEmpty || !digits.all (·.isDigit) || 0x100000000 ≤ value then none
  else some (.ofNat value)

/-- The number that an option is given. -/
def numberFor (option value : String) : Except Misuse UInt32 :=
  match number? value with
  | some n => .ok n
  | none => .error (.notNumber option value)

/-- A limit is a number. -/
def withLimit (o : DeviceOrder) (option : String) (n : UInt32) : DeviceOrder :=
  match option with
  | "--mailbox" => { o with config := { o.config with mailbox := n.toNat } }
  | "--max-blob" => { o with config := { o.config with codeLimit := n.toNat } }
  | "--max-script" => { o with config := { o.config with scriptLimit := n.toNat } }
  | _ => { o with config := { o.config with timeout := n } }

/-- Frames have a second checksum. -/
def withTrailer (o : DeviceOrder) : DeviceOrder :=
  { o with
    config := { o.config with trailing := true }
    framing := { o.framing with trailing := true } }

/-- Replies go out in pieces with pauses between them. -/
def paced (o : DeviceOrder) (chunk pause : UInt32) : DeviceOrder :=
  let framing := Framing.paced chunk.toNat pause.toNat
  { o with framing := { framing with trailing := o.framing.trailing } }

/-- The size of pieces and the pause between them, as an option gives them. -/
def paceOf (s : String) : Except Misuse (UInt32 × UInt32) := do
  let (chunk, pause) ← aroundColon s
  return (← numberFor "--pace" chunk, ← numberFor "--pace" pause)

/-- The options that set a limit. -/
def limitOptions : List String :=
  ["--mailbox", "--max-blob", "--max-script", "--timeout"]

/-- Reads the options. -/
def readOptions (o : DeviceOrder) : List String → Except Misuse DeviceOrder
  | [] => .ok o
  | a :: rest =>
    if a = "--trailing-crc" then readOptions o.withTrailer rest
    else if limitOptions.contains a then
      match rest with
      | [] => .error (.noValue a)
      | v :: rest => do readOptions (o.withLimit a (← numberFor a v)) rest
    else if a = "--pace" then
      match rest with
      | [] => .error .badPace
      | v :: rest => do
        let (chunk, pause) ← paceOf v
        readOptions (o.paced chunk pause) rest
    else .error (.unexpected "argument" a)

/-- What a device is told by a command line. -/
def ofArguments : List String → Except Misuse DeviceOrder
  | [] => .error .tooShort
  | a :: rest =>
    if a = "--help" || a = "-h" then .error .help
    else match SocketAddress.ofString? a with
      | none => .error (.badAddress "listen" a)
      | some address => readOptions { address } rest

/-- The simulated device, which has a bank of pins and emulates a core. -/
def server (o : DeviceOrder) : Device.Server Pins.Bank Handoff.Emulation where
  framing := o.framing
  device := .start o.config Pins.Bank.board Pins.Bank.waited
    (.emulator Handoff.Emulation.usualBudget) {}

/-! ## Listening -/

/-- The entry of a device that is ready. -/
def readyEntry (c : Device.Config) : Log.Entry :=
  ⟨.info, s!"Device ready: mailbox={c.mailbox}B max_blob={c.codeLimit}B " ++
    s!"max_script={c.scriptLimit}B timeout={c.timeout}ms trailing_crc={c.trailing}"⟩

/-- The entry of a device that listens. -/
def listeningEntry (a : SocketAddress) : Log.Entry :=
  ⟨.info, s!"listening on {a.text}"⟩

/-- The entry of a device that is interrupted. -/
def interruptedEntry : Log.Entry :=
  ⟨.info, "Ctrl+C received, shutting down..."⟩

end DeviceOrder

/-- A device that has begun to listen, or has ended before. -/
inductive Listening where
  /-- It ended. -/
  | ended (o : Outcome)
  /-- It listens. What is in the log so far is told. -/
  | listens (o : DeviceOrder) (address : SocketAddress) (entries : List Log.Entry)

/-- What the program of a device does with its command line until it listens; `bind` gives
the address that it then listens at. -/
def startDevice (program : String) (bind : SocketAddress → Except SystemError SocketAddress)
    (arguments : List String) : Listening :=
  match DeviceOrder.ofArguments arguments with
  | .error m => .ended (m.outcome (DeviceOrder.usage program))
  | .ok o =>
    let ready := DeviceOrder.readyEntry o.config
    match bind o.address with
    | .error e =>
      .ended { exit := 1, entries :=
        [ready, ⟨.error, s!"Failed to listen on {o.address.text}: {e.message}"⟩] }
    | .ok address => .listens o address [ready, DeviceOrder.listeningEntry address]

end Coprocessor.CommandLine
