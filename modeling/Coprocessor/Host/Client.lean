import Coprocessor.Host.Exchange
import Coprocessor.Host.Session

/-!
# Clients

A client carries a session out over a link. It has a clock : writing takes the time of
its pauses, and reading goes on until the bytes have come or the time for the exchange is
over. What the other end does is given as its reaction to the bytes that reach it.

What was read of a frame that does not end in time is gone.
-/

namespace Coprocessor.Host

open Link

/-- What comes after the last bytes. -/
inductive Closing where
  /-- The end of the stream. -/
  | hungUp
  /-- A fault. -/
  | fault (f : Fault)
  /-- Nothing. -/
  | silent
  deriving DecidableEq, Repr

/-- What another end with states of type `δ` does with bytes that reach it at some time :
the bytes it sends, the entries in the log, and its state afterwards. -/
abbrev Reaction (δ : Type) := (time : Nat) → Bytes → δ → (List Arrival × List Log.Entry) × δ

/-- A link, as its host has it. -/
structure Line (δ : Type) where
  /-- What the other end does. -/
  react : Reaction δ
  /-- The state of the other end. -/
  far : δ
  /-- The bytes that are not yet read. -/
  inlet : List Arrival := []
  /-- What comes after them. -/
  closing : Closing := .silent
  /-- The end that takes bytes. -/
  outlet : Outlet := {}
  /-- The time, in nanoseconds. -/
  clock : Nat := 0
  /-- What was sent, the last first. -/
  sent : List Bytes := []
  /-- The log, the last entry first. -/
  log : List Log.Entry := []

/-- Why an exchange stops. -/
inductive Stop where
  /-- The time is over. -/
  | late
  /-- The link failed. -/
  | failed (f : Failure)
  deriving DecidableEq, Repr

namespace Line

variable {δ : Type}

/-- Adds entries to the log. -/
def report (entries : List Log.Entry) (l : Line δ) : Line δ :=
  { l with log := entries.reverseAux l.log }

/-- Sends bytes, and the other end reacts. -/
def deliver (s : Bytes) (l : Line δ) : Line δ :=
  let ((arrivals, entries), far) := l.react l.clock s l.far
  { l with far, inlet := l.inlet ++ arrivals, sent := s :: l.sent }.report entries

/-- Writes bytes with their pauses until a deadline. -/
def send (deadline : Nat) : List Burst → Line δ → Except Stop Unit × Line δ
  | [], l => (.ok (), l)
  | b :: rest, l =>
    let time := l.clock + millis b.pause
    if deadline < time then (.error .late, { l with clock := deadline })
    else
      let (taken, outlet, fault) := l.outlet.accept b.bytes
      let l := { l with clock := time, outlet }.deliver taken
      match fault with
      | some f => (.error (.failed (.fault f)), l)
      | none => send deadline rest l

/-- Arrivals without their first `n` bytes. -/
def dropBytes : Nat → List Arrival → List Arrival
  | _, [] => []
  | n, a :: rest =>
    if a.bytes.length ≤ n then dropBytes (n - a.bytes.length) rest
    else ⟨a.time, a.bytes.drop n⟩ :: rest

/-- The time at which `n` bytes have come, from the time `now` on. -/
def timeOf (now : Nat) : Nat → List Arrival → Nat
  | 0, _ | _, [] => now
  | n, a :: rest => timeOf (max now a.time) (n - a.bytes.length) rest

/-- Reads the reply to a request until a deadline. -/
def receive (framing : Framing) (c : Command) (sequence : UInt32) (deadline : Nat) (l : Line δ) :
    Except Stop Frame × Line δ :=
  let (due, later) := l.inlet.span (·.time ≤ deadline)
  let s := received due
  let w := awaitReply framing c sequence s
  let l := l.report w.entries
  let used := s.length - w.rest.length
  let onward : Line δ :=
    { l with inlet := dropBytes used due ++ later, clock := timeOf l.clock used due }
  match w.finding with
  | .frame f => (.ok f, onward)
  | .noise => (.error (.failed .noise), onward)
  | .starved inNoise =>
    let drained : Line δ := { l with inlet := later, clock := timeOf l.clock s.length due }
    let late := (.error .late, { drained with clock := deadline })
    if later.isEmpty then
      match l.closing with
      | .silent => late
      | .hungUp => (.error (.failed (if inNoise then .ended else .cutShort)), drained)
      | .fault f => (.error (.failed (.fault f)), drained)
    else late

/-- All bytes that were sent. -/
def output (l : Line δ) : Bytes :=
  l.sent.reverse.flatten

end Line

/-- A host on a link. -/
structure Client (δ : Type) where
  /-- The settings. -/
  settings : Settings
  /-- The link. -/
  line : Line δ
  /-- The number of the last request. -/
  sequence : UInt32 := 0

namespace Client

variable {δ : Type}

/-- Sends a request and reads the reply. -/
def exchange (c : Command) (payload : Bytes) (extra : Nat) (k : Client δ) :
    Except CallError Bytes × Client δ :=
  let sequence := k.sequence + 1
  let budget := k.settings.timeout + extra
  let deadline := k.line.clock + millis budget
  let framing := k.settings.framing
  let stopped (s : Stop) (l : Line δ) : Except CallError Bytes × Line δ :=
    match s with
    | .late =>
      (.error (.noReply budget), l.report
        [⟨.warn, s!"{c.name} seq={sequence}: timed out after {Text.spanMillis budget}"⟩])
    | .failed f =>
      (.error (.link f), l.report
        [⟨.warn, s!"{c.name} seq={sequence}: link error: {f.message}"⟩])
  let (result, line) :=
    match k.line.send deadline (framing.bursts (.request c sequence payload) payload) with
    | (.error s, l) => stopped s l
    | (.ok (), l) =>
      match l.receive framing c sequence deadline with
      | (.error s, l) => stopped s l
      | (.ok f, l) =>
        let (result, entry) := accept k.settings.strict c sequence f
        (result, l.report entry.toList)
  (result, { k with line, sequence })

/-- Carries a session out. -/
def run : Session α → Client δ → α × Client δ
  | .done a, k => (a, k)
  | .request c payload extra next, k =>
    let (r, k) := k.exchange c payload extra
    run (next r) k
  | .pause n next, k =>
    run next { k with line := { k.line with clock := k.line.clock + millis n } }
  | .report e next, k => run next { k with line := k.line.report [e] }

end Client

end Coprocessor.Host
