import Coprocessor.CommandLine.Outcome
import Coprocessor.CommandLine.SocketAddress
import Coprocessor.Host.Calls
import Coprocessor.Host.Client
import Coprocessor.Numeral
import Coprocessor.Tune.Score

/-!
# The command line of a host

A host is told the address of a device, how to deal with it, and one thing to do.
Options come before the command, and those of the command anywhere after it.
Numbers are read permissively, so a value that is no number is zero.
-/

namespace Coprocessor.CommandLine

/-- What a host is to do. -/
inductive Action where
  /-- Show the version and the capabilities. -/
  | hello
  /-- Show the properties of the device. -/
  | info
  /-- Show the execution state. -/
  | status
  /-- Upload code. -/
  | load (path : String)
  /-- Run the code. -/
  | exec (limit : UInt32) (arguments : List Int32)
  /-- Upload and run a script. -/
  | script (path : String) (limit : UInt32) (form : Arguments.Form) (arguments : List Int32)
  /-- Show the mail. -/
  | mail (limit : UInt32)
  /-- Cancel what runs. -/
  | cancel
  /-- Drop what was uploaded. -/
  | reset
  /-- Call a function. -/
  | func (name : String) (form : Arguments.Form) (arguments : List Int32)
  /-- Enter the programming mode. -/
  | enterProgramming
  /-- Leave the programming mode. -/
  | leaveProgramming
  /-- Show the script of a tune, or upload and run it. -/
  | tune (path : String) (play : Bool)
  deriving DecidableEq, Repr

/-- The file that an action needs. -/
def Action.path? : Action → Option String
  | .load path | .script path .. | .tune path _ => some path
  | _ => none

/-- What a host is told. -/
structure HostOrder where
  /-- The address of the device. -/
  address : SocketAddress
  /-- How the host deals with bytes and time. -/
  settings : Host.Settings
  /-- How it uploads. -/
  uploading : Host.Uploading
  /-- What it does. -/
  action : Action
  deriving DecidableEq, Repr

namespace HostOrder

/-- How the program is used. -/
def usage (program : String) : String :=
  "\n".intercalate [
    "Co-processor RPC client",
    "",
    "USAGE:",
    s!"    {program} <addr> [OPTIONS] <command> [ARGS]",
    "",
    "OPTIONS:",
    "    --trailing-crc           Write and expect a trailing CRC32 after each payload",
    "    --strict-crc             Fail responses whose payload no CRC vouches for",
    "    --rpc-timeout <ms>       Per-request response timeout (default 2000)",
    "    --pace <chunk>:<ms>      Pause <ms> between <chunk>-byte pieces and DATA frames",
    "    -h, --help               Print this help message",
    "",
    "COMMANDS:",
    "    hello                               Protocol version and capability bits",
    "    info                                Flags, blob length, mailbox capacity",
    "    status                              Exec state",
    "    load <file.bin>                     Upload a Thumb blob",
    "    exec [--timeout ms] [args...]       Run the loaded blob",
    "    script <file> [--timeout ms] [--ascii] [args...]",
    "                                        Upload and run a script",
    "    mailbox [max]                       Read mailbox text",
    "    cancel                              Raise the cancel flag",
    "    reset                               Drop loaded code and clear the mailbox",
    "    func <name> [--ascii] [args...]     Call a host function",
    "    isp-enter | isp-exit                Toggle in-system-programming mode",
    "    coplm <file.coplm> [--play]         Print the generated script, or upload and run it",
    "",
    "ENVIRONMENT:",
    "    COPRO_LOG    Minimum log level: debug, info, warn, error (default info)",
    "",
    "EXAMPLES:",
    s!"    {program} 127.0.0.1:7000 hello",
    s!"    {program} 127.0.0.1:7000 load ret42.bin",
    s!"    {program} 127.0.0.1:7000 exec --timeout 500 1 2 3",
    s!"    {program} 127.0.0.1:7000 script blink.txt --ascii 0x0D 5",
    s!"    {program} 127.0.0.1:7000 func add 40 2",
    ""]

/-! ## Options -/

/-- A permissive number. -/
def numeral (s : String) : Int32 :=
  Numeral.read (.ofText s)

/-- How a host deals with the link and with uploads. -/
structure Manner where
  /-- How it deals with bytes and time. -/
  settings : Host.Settings := {}
  /-- How it uploads. -/
  uploading : Host.Uploading := {}
  deriving DecidableEq, Repr

namespace Manner

/-- Frames have a second checksum. -/
def withTrailer (m : Manner) : Manner :=
  { m with settings := { m.settings with framing := { m.settings.framing with trailing := true } } }

/-- Only replies that a checksum vouches for are accepted. -/
def strictly (m : Manner) : Manner :=
  { m with settings := { m.settings with strict := true } }

/-- A reply may take that many milliseconds. -/
def within (timeout : Nat) (m : Manner) : Manner :=
  { m with settings := { m.settings with timeout } }

/-- Bytes go out in pieces with pauses between them, and so do uploads. -/
def paced (chunk pause : Int32) (m : Manner) : Manner :=
  let framing := Framing.paced chunk.toInt.toNat pause.toInt.toNat
  let framing := { framing with trailing := m.settings.framing.trailing }
  ⟨{ m.settings with framing }, ⟨framing.chunk, pause.toInt.toNat⟩⟩

end Manner

/-- Reads the options before the command, and leaves the command. -/
def readOptions (m : Manner) : List String → Except Misuse (Manner × List String)
  | [] => .ok (m, [])
  | a :: rest =>
    if a.toList.take 2 ≠ ['-', '-'] then .ok (m, a :: rest)
    else if a = "--trailing-crc" then readOptions m.withTrailer rest
    else if a = "--strict-crc" then readOptions m.strictly rest
    else if a = "--rpc-timeout" then
      match rest with
      | [] => .error (.noValue a)
      | v :: rest => readOptions (m.within (numeral v).toUInt32.toNat) rest
    else if a = "--pace" then
      match rest with
      | [] => .error .badPace
      | v :: rest => do
        let (chunk, pause) ← aroundColon v
        readOptions (m.paced (numeral chunk) (numeral pause)) rest
    else .error (.unexpected "option" a)

/-! ## Commands -/

/-- What stands after a command. -/
structure Operands where
  /-- The time limit. -/
  limit : UInt32 := 0
  /-- The form of the arguments. -/
  form : Arguments.Form := .binary
  /-- Whether a tune is played. -/
  play : Bool := false
  /-- All that is no option, in order. -/
  plain : List String := []
  deriving DecidableEq, Repr

/-- Reads what stands after a command. -/
def readOperands (o : Operands) : List String → Except Misuse Operands
  | [] => .ok o
  | "--timeout" :: v :: rest => readOperands { o with limit := (numeral v).toUInt32 } rest
  | ["--timeout"] => .error (.noValue "--timeout")
  | "--ascii" :: rest => readOperands { o with form := .ascii } rest
  | "--play" :: rest => readOperands { o with play := true } rest
  | a :: rest => readOperands { o with plain := o.plain ++ [a] } rest

/-- The first operand. -/
def Operands.first (o : Operands) (command what : String) : Except Misuse String :=
  match o.plain with
  | a :: _ => .ok a
  | [] => .error (.noOperand command what)

/-- What a command with its operands does. -/
def actionOf (command : String) (o : Operands) : Except Misuse Action :=
  let numbers := o.plain.map numeral
  match command with
  | "hello" => .ok .hello
  | "info" => .ok .info
  | "status" => .ok .status
  | "load" => (o.first command "a blob file").map .load
  | "exec" => .ok (.exec o.limit numbers)
  | "script" =>
    (o.first command "a script file").map (.script · o.limit o.form (numbers.drop 1))
  | "mailbox" => .ok (.mail ((numbers.head?.map Int32.toUInt32).getD 0xFFFFFFFF))
  | "cancel" => .ok .cancel
  | "reset" => .ok .reset
  | "func" => (o.first command "a function name").map (.func · o.form (numbers.drop 1))
  | "isp-enter" => .ok .enterProgramming
  | "isp-exit" => .ok .leaveProgramming
  | "coplm" => (o.first command "a .coplm file").map (.tune · o.play)
  | _ => .error (.unknownCommand command)

/-- What a host is told by a command line. -/
def ofArguments : List String → Except Misuse HostOrder
  | [] | [_] => .error .tooShort
  | a :: rest =>
    if a = "--help" || a = "-h" then .error .help
    else match SocketAddress.ofString? a with
      | none => .error (.badAddress "device" a)
      | some address => do
        let (m, rest) ← readOptions {} rest
        match rest with
        | [] => .error .noCommand
        | command :: rest =>
          let action ← actionOf command (← readOperands {} rest)
          return ⟨address, m.settings, m.uploading, action⟩

/-! ## Doing it -/

/-- Files by their names. -/
abbrev Files := String → Except SystemError Bytes

/-- The text in the log when a file cannot be used. -/
def unreadable (path reason : String) : String :=
  s!"Failed to read {path}: {reason}"

/-- The bytes of a file. -/
def contents (files : Files) (path : String) : Except String Bytes :=
  (files path).mapError fun e => unreadable path e.message

/-- The tune in a file. -/
def tuneIn (files : Files) (path : String) : Except String Tune :=
  match files path with
  | .error e => .error (unreadable path (TuneError.unreadable e).message)
  | .ok data => (Tune.read data).mapError fun e => unreadable path e.message

/-- The line that a call ends with. -/
def line (c : Host.Call α) (text : α → String) : Host.Call String :=
  (fun a => text a ++ "\n") <$> c

/-- A call that ends silently. -/
def silently (c : Host.Call Unit) : Host.Call String :=
  (fun _ => "") <$> c

/-- The calls of an action, which end with its output; or why they cannot be made. -/
def calls (up : Host.Uploading) (files : Files) : Action → Except String (Host.Call String)
  | .hello => .ok (line .hello fun g =>
      s!"version={Text.hex16 g.version} caps={Text.hex32 g.capabilities}")
  | .info => .ok (line .info fun i =>
      s!"flags={Text.hex32 i.flags} blob_len={i.codeLength} mailbox_max={i.mailboxSize}")
  | .status => .ok (line .status (·.name))
  | .load path => do
    let code ← contents files path
    return do
      let n ← Host.Call.loadCode up code
      Host.Call.report .info s!"Loaded {path} ({n} bytes)"
      return ""
  | .exec limit arguments => .ok (line (.exec arguments limit) toString)
  | .script path limit form arguments => do
    let text ← contents files path
    return do
      let _ ← Host.Call.loadScript up text
      line (.scriptExec arguments limit form) toString
  | .mail limit => .ok (line (.readMail limit) Text.lossy)
  | .cancel => .ok (silently .cancel)
  | .reset => .ok (silently .reset)
  | .func name form arguments => .ok (line (.func (.ofText name) arguments form) toString)
  | .enterProgramming => .ok (silently .enterProgramming)
  | .leaveProgramming => .ok (silently .leaveProgramming)
  | .tune path _ => do
    let t ← tuneIn files path
    return do
      let _ ← Host.Call.loadScript up t.score
      line (.scriptExec [] t.budget .binary) toString

variable {δ : Type}

/-- Carries an action out on a link. -/
def runOn (o : HostOrder) (files : Files) (l : Host.Line δ) : Outcome × Host.Line δ :=
  match calls o.uploading files o.action with
  | .error reason => (.failed 1 reason, l)
  | .ok call =>
    let (result, k) := Host.Client.run call { settings := o.settings, line := l }
    let entries := k.line.log.reverse
    match result with
    | .ok output => ({ output, entries }, k.line)
    | .error e => ({ exit := 2, entries := entries ++ [⟨.error, e.message⟩] }, k.line)

/-- Does what a host is told. To show a tune takes no device. -/
def run (o : HostOrder) (files : Files)
    (connect : SocketAddress → Except SystemError (Host.Line δ)) :
    Outcome × Option (Host.Line δ) :=
  match o.action with
  | .tune path false =>
    match tuneIn files path with
    | .error reason => (.failed 1 reason, none)
    | .ok t => ({ output := Text.lossy t.score }, none)
  | _ =>
    match connect o.address with
    | .error e => (.failed 1 s!"Failed to connect to {o.address.text}: {e.message}", none)
    | .ok l => (o.runOn files l).map id some

end HostOrder

/-- What the program of a host does with its command line. -/
def runHost {δ : Type} (program : String) (files : HostOrder.Files)
    (connect : SocketAddress → Except SystemError (Host.Line δ)) (arguments : List String) :
    Outcome × Option (Host.Line δ) :=
  match HostOrder.ofArguments arguments with
  | .error m => (m.outcome (HostOrder.usage program), none)
  | .ok o => o.run files connect

end Coprocessor.CommandLine
