import Coprocessor.Device.Config
import Coprocessor.Device.Reply
import Coprocessor.FunctionTable
import Coprocessor.Handoff.Station

/-!
# Devices

A device holds uploaded code and an uploaded script, a station that runs jobs, a
table of functions, the execution state it reports, and whether it is in the
programming mode, in which nothing is loaded or run. `Device.answer` is what it says
to each command, and the device afterwards.

The fields of a request are read from the front of its payload, and what comes
after them does not count. A field that is missing or malformed is refused as such.
-/

namespace Coprocessor

/-- A device. -/
structure Device (σ τ : Type) where
  /-- The settings. -/
  config : Device.Config
  /-- The uploaded code. -/
  code : Upload
  /-- The uploaded script. -/
  script : Upload
  /-- Where jobs are run. -/
  station : Handoff.Station σ τ
  /-- The functions that can be called. -/
  functions : FunctionTable σ
  /-- The execution state while no job waits or runs. -/
  execState : ExecState
  /-- Whether the programming mode is on. -/
  programming : Bool
  /-- Whether there is memory for a number of bytes. -/
  memory : Nat → Bool

namespace Device

variable {σ τ : Type}

/-- A device after it was turned on. -/
def start (config : Config) (board : Pins.Board σ) (waited : σ → Nat) (runner : Handoff.Runner σ τ)
    (pins : σ) : Device σ τ where
  config := config
  code := .empty .code config.codeLimit
  script := .empty .script config.scriptLimit
  station := {
    facility := ⟨board, waited, runner, config.limits⟩
    grace := config.grace
    mailbox := .empty config.mailbox
    pins := pins }
  functions := FunctionTable.builtin board
  execState := .idle
  programming := false
  memory := fun _ => true

/-- The execution state that is reported : a job that waits or runs counts first. -/
def reported (d : Device σ τ) : ExecState :=
  if d.station.isBusy then .running else d.execState

/-! ## Reading requests -/

/-- The value at the front of a payload, if it can be read. -/
def readField (x : Decoder α) (payload : Bytes) : Except Status α :=
  (x payload).1.mapError fun _ => .parameter

/-- A value and then a time limit in milliseconds, which may be left out. -/
def withLimit (x : Decoder α) : Decoder (α × UInt32) := do
  let a ← x
  return (a, (← Arguments.optionalWord).getD 0)

/-- The arguments of a call of code : their number, and then words. -/
def codeArguments : Decoder (List Int32) := do
  Arguments.words (← Codec.u32.decode)

/-- The name of a function and its arguments, none if nothing follows the name. -/
def functionCall : Decoder (Bytes × List Int32) := do
  let length ← Codec.u32.decode
  if length = 0 || FunctionTable.maxName < length.toNat then Decoder.fail .invalidValue
  else
    let name ← Decoder.take length.toNat
    if (← Decoder.remaining) = 0 then return (name, [])
    else return (name, (← Arguments.read).values)

/-- A time limit, or the one of the settings if it is zero. -/
def limitOr (d : Device σ τ) (limit : UInt32) : UInt32 :=
  if limit = 0 then d.config.timeout else limit

/-- The time that is waited for a script beyond its own limit, in milliseconds. -/
def scriptSlack : Nat := 100

/-! ## What is said -/

/-- The capabilities : code, scripts, functions, numerals as arguments, and the second
checksum if there is one. -/
def capabilities (d : Device σ τ) : UInt32 :=
  if d.config.trailing then 0x1F else 0x0F

/-- The flags : code is loaded, a job waits or runs, the mailbox holds a text, and the
programming mode is on. -/
def flags (d : Device σ τ) : UInt32 :=
  (if d.code.isSealed then 1 else 0) ||| (if d.station.isBusy then 2 else 0) |||
    (if d.station.mailbox.length = 0 then 0 else 4) ||| (if d.programming then 0x100 else 0)

/-- Announces an upload. -/
def announce (kind : Upload.Kind) (payload : Bytes) (d : Device σ τ) :
    Except Status Reply × Device σ τ :=
  if d.programming then (.error .state, d)
  else match readField Codec.u32.decode payload with
    | .error status => (.error status, d)
    | .ok total =>
      match kind with
      | .code =>
        match d.code.announce d.memory total with
        | (.ok (), code) => (.ok (.reserved .code total), { d with code, execState := .idle })
        | (.error status, code) => (.error status, { d with code })
      | .script =>
        match d.script.announce d.memory total with
        | (.ok (), script) => (.ok (.reserved .script total), { d with script })
        | (.error status, script) => (.error status, { d with script })

/-- Takes a piece of an upload. -/
def append (kind : Upload.Kind) (piece : Bytes) (d : Device σ τ) :
    Except Status Reply × Device σ τ :=
  if d.programming then (.error .state, d)
  else match kind with
    | .code =>
      let (receipt, code) := d.code.append piece
      (receipt.map .receipt, { d with code })
    | .script =>
      let (receipt, script) := d.script.append piece
      (receipt.map .receipt, { d with script })

/-- Verifies an upload. -/
def verify (kind : Upload.Kind) (payload : Bytes) (d : Device σ τ) :
    Except Status Reply × Device σ τ :=
  if d.programming then (.error .state, d)
  else match readField Codec.u32.decode payload with
    | .error status => (.error status, d)
    | .ok expected =>
      match kind with
      | .code =>
        match d.code.verify expected with
        | (.ok v, code) =>
          (.ok (.verdict .code v expected),
            { d with code, execState := if v.status = .ok then .loaded else d.execState })
        | (.error status, code) => (.error status, { d with code })
      | .script =>
        let (verdict, script) := d.script.verify expected
        (verdict.map fun v => .verdict .script v expected, { d with script })

/-- Runs the code. The reported state is that it has run, whatever came of it. -/
def exec (payload : Bytes) (d : Device σ τ) : Except Status Reply × Device σ τ :=
  if d.programming then (.error .state, d)
  else match readField (withLimit codeArguments) payload with
    | .error status => (.error status, d)
    | .ok (arguments, limit) =>
      match d.code.content? with
      | none => (.error .state, d)
      | some content =>
        if d.station.isBusy then (.error .state, d)
        else
          let (answer, station) :=
            d.station.run (.code content (Arguments.padded _ arguments)) (d.limitOr limit).toNat
          (answer.map .codeValue, { d with station, execState := .done })

/-- Runs the script. -/
def scriptExec (payload : Bytes) (d : Device σ τ) : Except Status Reply × Device σ τ :=
  if d.programming then (.error .state, d)
  else match readField (withLimit Arguments.read) payload with
    | .error status => (.error status, d)
    | .ok (arguments, limit) =>
      match d.script.content? with
      | none => (.error .state, d)
      | some content =>
        if d.station.isBusy then (.error .state, d)
        else
          let limit := d.limitOr limit
          let (answer, station) :=
            d.station.run (.script content (arguments.values.take Arguments.scriptCount) limit)
              (limit.toNat + scriptSlack)
          (answer.map .value, { d with station })

/-- Calls a function. -/
def call (payload : Bytes) (d : Device σ τ) : Except Status Reply × Device σ τ :=
  if d.programming then (.error .state, d)
  else match readField functionCall payload with
    | .error status => (.error status, d)
    | .ok (name, arguments) =>
      match d.functions.call name arguments d.station.mailbox d.station.pins with
      | .error status => (.error status, d)
      | .ok (value, mailbox, pins) =>
        (.ok (.value value), { d with station := { d.station with mailbox, pins } })

/-- Reads the mailbox. -/
def readMail (payload : Bytes) (d : Device σ τ) : Except Status Reply × Device σ τ :=
  (do return .mail (d.station.mailbox.read (← readField Codec.u32.decode payload).toNat), d)

/-- Asks a running job to stop, and drops everything if no job waits or runs. -/
def reset (d : Device σ τ) : Except Status Reply × Device σ τ :=
  let d := { d with station := d.station.cancel }
  if d.station.isBusy then (.error .state, d)
  else
    (.ok .cleared,
      { d with
        code := d.code.free
        script := d.script.free
        station := { d.station with mailbox := d.station.mailbox.clear }
        execState := .idle
        programming := false })

/-- Turns the programming mode on, unless a job waits or runs. -/
def enterProgramming (d : Device σ τ) : Except Status Reply × Device σ τ :=
  if d.station.isBusy then (.error .state, d) else (.ok .done, { d with programming := true })

/-- What the device says to a command with a payload. -/
def answer (c : Command) (payload : Bytes) (d : Device σ τ) : Except Status Reply × Device σ τ :=
  match c with
  | .hello => (.ok (.greeting d.capabilities), d)
  | .info =>
    (.ok (.info d.flags (.ofNat d.code.held.length) (.ofNat d.station.mailbox.capacity)), d)
  | .loadBegin => d.announce .code payload
  | .loadData => d.append .code payload
  | .loadEnd => d.verify .code payload
  | .exec => d.exec payload
  | .status => (.ok (.execState d.reported), d)
  | .mailboxRead => d.readMail payload
  | .cancel => (.ok .done, { d with station := d.station.cancel })
  | .reset => d.reset
  | .scriptBegin => d.announce .script payload
  | .scriptData => d.append .script payload
  | .scriptEnd => d.verify .script payload
  | .scriptExec => d.scriptExec payload
  | .func => d.call payload
  | .ispEnter => d.enterProgramming
  | .ispExit => (.ok .done, { d with programming := false })

/-- The payload of the reply to a command. -/
def handle (c : Command) (payload : Bytes) (d : Device σ τ) : Bytes × Device σ τ :=
  let (r, d) := d.answer c payload
  (Reply.payloadOf c r, d)

end Device

end Coprocessor
