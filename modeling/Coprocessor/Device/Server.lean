import Coprocessor.Device.Frames
import Coprocessor.Link.Reading

/-!
# Serving a link

A device on a link answers one frame after the other. Noise that is given up on is
only logged. Serving ends when the link does, or when it takes no more bytes : the
frame whose reply is not taken was still answered.
-/

namespace Coprocessor.Device

open Link

variable {σ τ : Type}

/-- A device on a link. -/
structure Server (σ τ : Type) where
  /-- The framing. -/
  framing : Framing
  /-- The device. -/
  device : Device σ τ
  /-- The end of the link that takes bytes. -/
  outlet : Outlet := {}
  /-- The fault of the link on which serving has ended. -/
  broken : Option Fault := none
  /-- What was written, the last first. -/
  written : List Arrival := []
  /-- The log, the last entry first. -/
  log : List Log.Entry := []

namespace Server

/-- The device at a later time. -/
def passTo (time : Nat) (v : Server σ τ) : Server σ τ :=
  { v with device := { v.device with station := v.device.station.passTo time } }

/-- Adds entries to the log. -/
def report (entries : List Log.Entry) (v : Server σ τ) : Server σ τ :=
  { v with log := entries.reverseAux v.log }

/-- Writes bytes after a pause, unless the link is broken. -/
def write (v : Server σ τ) (b : Burst) : Server σ τ :=
  if v.broken.isSome then v
  else
    let v := v.passTo (v.device.station.clock + millis b.pause)
    let (taken, outlet, fault) := v.outlet.accept b.bytes
    { v with outlet, broken := fault, written := ⟨v.device.station.clock, taken⟩ :: v.written }

/-- Answers a frame. -/
def answer (f : Frame) (v : Server σ τ) : Server σ τ :=
  let (response, device) := v.device.respond f.header f.payload f.verdict
  let (entries, device) := device.takeEntries
  let (h, payload) := response.frame f.header
  let v := { v with device }.report (entries ++ (response.entry? f.header).toList)
  (v.framing.bursts h payload).foldl write v

/-- What the log tells of noise. -/
def noiseEntry : Log.Entry :=
  ⟨.warn, s!"discarding line noise: {Failure.noise.message}"⟩

/-- Answers the frames in a string of bytes. The bytes left are not yet a frame, or serving
has ended. -/
def serve (s : Bytes) (v : Server σ τ) : Bytes × Server σ τ :=
  if v.broken.isSome then (s, v)
  else
    let r := v.framing.read s
    match _h : r.finding with
    | .starved _ => (s, v)
    | .noise => serve r.rest (v.report (r.entries ++ [noiseEntry]))
    | .frame f => serve r.rest ((v.report r.entries).answer f)
termination_by s.length
decreasing_by
  · exact Framing.length_read_of_noise ‹_›
  · exact Framing.length_read_of_frame ‹_›

/-- Answers the frames in a string of bytes after which the link has a fault, and logs what
is odd about the bytes that are left. -/
def serveAll (s : Bytes) (v : Server σ τ) : Server σ τ :=
  let (rest, v) := v.serve s
  if v.broken.isSome then v else v.report (v.framing.read rest).entries

/-- All bytes that were written. -/
def output (v : Server σ τ) : Bytes :=
  received v.written.reverse

/-- The fault that serving ends on, if the one of the link that gives bytes is `fault`. The
end of the stream is none. -/
def closing (fault : Fault) (v : Server σ τ) : Option Fault :=
  match v.broken with
  | some f => some f
  | none => if fault = .endOfStream then none else some fault

end Server

end Coprocessor.Device
