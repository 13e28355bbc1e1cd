import Coprocessor.Proofs.Host.Linked

/-!
# Calls that expire

A client and a device send each other whole frames, over two queues that keep their order.
A call takes the next number, writes its request and reads replies until one comes that does
not belong to an earlier call; it may expire before each of these steps (`Step`). Its request
is then still on its way, or its reply is, and the next call finds that reply before its own.
The device answers the oldest request with what it says to it, whatever it was doing.

Frames under way are labelled with the number of the call that they belong to (`Letter`). No
step depends on labels; they are there to tell what belongs together when the numbers that are
on the wire have overflowed.
-/

namespace Coprocessor.Correspondence

open Host

variable {σ τ : Type}

/-- A frame under way, labelled with the call that it belongs to. -/
structure Letter where
  /-- The number of the call. -/
  call : Nat
  /-- The header. -/
  header : Header
  /-- The payload. -/
  payload : Bytes
  deriving DecidableEq, Repr

/-- What the client does next. -/
inductive Phase where
  /-- It calls something. -/
  | free
  /-- It writes a request. -/
  | writing (c : Command) (payload : Bytes)
  /-- It reads a reply. -/
  | reading (c : Command)
  deriving DecidableEq, Repr

/-- A client and a device, and what is under way between them, the oldest first. -/
structure Parties (σ τ : Type) where
  /-- The device. -/
  device : Device σ τ
  /-- The requests that the device has not answered. -/
  requests : List Letter := []
  /-- The replies that the client has not read. -/
  replies : List Letter := []
  /-- The number that the last request has on the wire. -/
  sequence : UInt32 := 0
  /-- What the client does next. -/
  phase : Phase := .free
  /-- The number of calls, for the labels. -/
  calls : Nat := 0

/-- What can be told of a step. -/
inductive Event where
  /-- A call begins. -/
  | call (number : Nat) (c : Command) (payload : Bytes)
  /-- Its request is written. -/
  | send (request : Letter)
  /-- The device answers a request. -/
  | answer (request reply : Letter)
  /-- A call reads a reply and drops it. -/
  | drop (number : Nat) (reply : Letter)
  /-- A call reads a reply and returns. -/
  | finish (number : Nat) (reply : Letter) (result : Except CallError Bytes)
  /-- The time of a call is over. -/
  | expire
  /-- The device is left alone for some time. -/
  | rest

/-- One step of the client or the device. `strict` tells whether the client refuses a reply
whose payload no checksum vouches for. What a second checksum says of a frame, if there is one,
is free. -/
inductive Step (strict : Bool) :
    Parties σ τ → Event → Parties σ τ → Prop
  /-- A call begins, with the next number. -/
  | call (t) (c : Command) (payload : Bytes) (hp : t.phase = .free) :
      Step strict t (.call (t.calls + 1) c payload)
        { t with
          phase := .writing c payload
          sequence := t.sequence + 1
          calls := t.calls + 1 }
  /-- The request is written. -/
  | send (t) {c : Command} {payload : Bytes} (hp : t.phase = .writing c payload) :
      Step strict t (.send ⟨t.calls, .request c t.sequence payload, payload⟩)
        { t with
          phase := .reading c
          requests := t.requests ++ [⟨t.calls, .request c t.sequence payload, payload⟩] }
  /-- The device answers the oldest request. -/
  | answer (t) {r : Letter} {rest : List Letter} (verdict : Option Bool) {reply : Header × Bytes}
      {d : Device σ τ} (hr : t.requests = r :: rest)
      (hd : t.device.handleFrame r.header r.payload verdict = (reply, d)) :
      Step strict t (.answer r ⟨r.call, reply.1, reply.2⟩)
        { t with
          device := d
          requests := rest
          replies := t.replies ++ [⟨r.call, reply.1, reply.2⟩] }
  /-- The oldest reply is to an earlier request. -/
  | drop (t) {c : Command} {a : Letter} {rest : List Letter} (hp : t.phase = .reading c)
      (ha : t.replies = a :: rest) (he : isEarlier a.header.sequence t.sequence = true) :
      Step strict t (.drop t.calls a) { t with replies := rest }
  /-- The oldest reply is to no earlier request. -/
  | finish (t) {c : Command} {a : Letter} {rest : List Letter} (verdict : Option Bool)
      (hp : t.phase = .reading c) (ha : t.replies = a :: rest)
      (he : isEarlier a.header.sequence t.sequence = false) :
      Step strict t
        (.finish t.calls a (accept strict c t.sequence ⟨a.header, a.payload, verdict, 0⟩).1)
        { t with phase := .free, replies := rest }
  /-- The time of the call is over. -/
  | expire (t) (hp : t.phase ≠ .free) : Step strict t .expire { t with phase := .free }
  /-- The device is left alone : its worker acts and time passes. -/
  | rest (t) {d : Device σ τ} (hd : t.device.Idles d) : Step strict t .rest { t with device := d }

/-- A run from a client that has called nothing yet and a device in any state, with its events,
the first one first. -/
inductive Run (strict : Bool) (d : Device σ τ) : List Event → Parties σ τ → Prop
  /-- Nothing is under way. -/
  | start : Run strict d [] { device := d }
  /-- The client or the device does a step. -/
  | step {events t e t'} (before : Run strict d events t) (last : Step strict t e t') :
      Run strict d (events ++ [e]) t'

/-! ## What is told -/

namespace Event

/-- The call that begins. -/
def called? : Event → Option (Nat × Command × Bytes)
  | call number c payload => some (number, c, payload)
  | _ => none

/-- The request that is written. -/
def sent? : Event → Option Letter
  | send request => some request
  | _ => none

/-- The request that is answered, and the reply. -/
def answered? : Event → Option (Letter × Letter)
  | answer request reply => some (request, reply)
  | _ => none

/-- The reply that is read. -/
def read? : Event → Option Letter
  | drop _ reply | finish _ reply _ => some reply
  | _ => none

end Event

/-- The calls, in order. -/
def called (events : List Event) : List (Nat × Command × Bytes) :=
  events.filterMap Event.called?

/-- The requests that were written, in order. -/
def sent (events : List Event) : List Letter :=
  events.filterMap Event.sent?

/-- The requests that were answered with their replies, in order. -/
def answered (events : List Event) : List (Letter × Letter) :=
  events.filterMap Event.answered?

/-- The replies that were read, in order. -/
def replied (events : List Event) : List Letter :=
  events.filterMap Event.read?

/-- The requests whose replies were not read, in order. It does not matter whether their calls
have expired, and where they or their replies are. -/
def waiting (events : List Event) : List Letter :=
  (sent events).drop (replied events).length

/-- The number of calls from the oldest request on whose reply was not read. If each call writes
its request, these are the requests without an answer; a call that has expired before that counts
as well, since it has taken a number. -/
def unanswered (events : List Event) : Nat :=
  match waiting events with
  | [] => 0
  | oldest :: _ => (called events).length + 1 - oldest.call

end Coprocessor.Correspondence
