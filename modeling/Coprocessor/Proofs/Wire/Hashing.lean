import Coprocessor.Proofs.Wire.Division

/-!
# Checksums by a machine

A checksum may be left to a machine that is started with an earlier checksum, takes chunks in, and
can be reset (`Checksum.Hasher`). All that is asked of it is that its results are those of the
division bit by bit, and that a machine that is reset tells what a new one does
(`Checksum.Hasher.Computes`). Then a checksum taken at once, one taken in two parts, one over chunks
since the last reset, and the field of a frame are one and the same, and a remainder
(`Checksum.Hasher.Computes.agrees`). The register itself is such a machine
(`Checksum.Rolling.computes_hasher`).
-/

open Polynomial

namespace Coprocessor.Checksum

/-- A machine for checksums. -/
structure Hasher (σ : Type) where
  /-- A machine that goes on from a checksum. -/
  start : UInt32 → σ
  /-- The machine after one more chunk. -/
  take : σ → Bytes → σ
  /-- The checksum. -/
  finish : σ → UInt32
  /-- The machine as new. -/
  reset : σ → σ

/-- What is done with a checksum over chunks. -/
inductive Event where
  /-- One more chunk is taken in. -/
  | update (chunk : Bytes)
  /-- It starts anew. -/
  | reset
  /-- It is looked at. -/
  | value
  deriving DecidableEq, Repr

/-- The chunk that is taken in. -/
def Event.chunk : Event → Bytes
  | update chunk => chunk
  | _ => []

namespace Hasher

variable {σ : Type}

/-- What a machine tells. -/
structure Computes (h : Hasher σ) : Prop where
  /-- Chunks are divided as one string, from the complement of the checksum at the start. -/
  finish_start : ∀ (initial : UInt32) (chunks : List Bytes),
    h.finish (chunks.foldl h.take (h.start initial)) =
      ~~~(bits chunks.flatten).foldl takeBit (~~~initial)
  /-- A machine that is reset tells what a new one does. -/
  finish_reset : ∀ (s : σ) (chunks : List Bytes),
    h.finish (chunks.foldl h.take (h.reset s)) = h.finish (chunks.foldl h.take (h.start 0))

/-- The checksum of `data` from the register `r`. -/
def crc32From (h : Hasher σ) (r : UInt32) (data : Bytes) : UInt32 :=
  h.finish (h.take (h.start (~~~r)) data)

/-- The checksum field of a frame that carries `payload`. -/
def ofPayload (h : Hasher σ) (payload : Bytes) : UInt32 :=
  if payload.isEmpty then 0 else h.crc32From 0xFFFFFFFF payload

/-- The machine after an event. -/
def act (h : Hasher σ) (s : σ) : Event → σ
  | .update chunk => h.take s chunk
  | .reset => h.reset s
  | .value => s

/-- The checksum after events, from the beginning. -/
def value (h : Hasher σ) (events : List Event) : UInt32 :=
  h.finish (events.foldl h.act (h.start 0))

end Hasher

/-- The register as a machine. -/
def Rolling.hasher : Hasher Rolling where
  start initial := ⟨~~~initial⟩
  take := update
  finish := value
  reset _ := empty

namespace Hasher

variable {σ : Type} {h : Hasher σ}

/-- Without a reset the chunks are taken in, and nothing else happens. -/
theorem foldl_act (h : Hasher σ) (s : σ) {events : List Event} (hevents : .reset ∉ events) :
    ∃ chunks : List Bytes, events.foldl h.act s = chunks.foldl h.take s ∧
      chunks.flatten = events.flatMap Event.chunk := by
  induction events generalizing s with
  | nil => exact ⟨[], rfl, rfl⟩
  | cons e events ih =>
    rw [List.mem_cons, not_or] at hevents
    obtain ⟨chunks, hchunks, hflatten⟩ := ih (h.act s e) hevents.2
    cases e with
    | update chunk =>
      refine ⟨chunk :: chunks, hchunks, ?_⟩
      rw [List.flatten_cons, hflatten]
      rfl
    | reset => exact absurd rfl hevents.1
    | value => exact ⟨chunks, hchunks, hflatten⟩

variable (hc : h.Computes)

include hc

theorem Computes.finish_eq (initial : UInt32) (chunks : List Bytes) :
    h.finish (chunks.foldl h.take (h.start initial)) =
      Checksum.crc32From (~~~initial) chunks.flatten := by
  rw [hc.finish_start, ← register_eq_takeBits, Checksum.crc32From]

theorem Computes.crc32From_eq (r : UInt32) (data : Bytes) :
    h.crc32From r data = Checksum.crc32From r data := by
  have hone := hc.finish_eq (~~~r) [data]
  rwa [UInt32.not_not, List.flatten_singleton] at hone

/-- What came before the last reset does not count, nor how the rest was cut. -/
theorem Computes.value_append {front back : List Event}
    (hfront : front = [] ∨ front.getLast? = some .reset) (hback : .reset ∉ back) :
    h.value (front ++ back) = Checksum.crc32 (back.flatMap Event.chunk) := by
  have hstart (s : σ) (hs : ∀ chunks : List Bytes, h.finish (chunks.foldl h.take s) =
      h.finish (chunks.foldl h.take (h.start 0))) :
      h.finish (back.foldl h.act s) = Checksum.crc32 (back.flatMap Event.chunk) := by
    obtain ⟨chunks, hchunks, hflatten⟩ := foldl_act h s hback
    rw [hchunks, hs, hc.finish_eq, hflatten]
    rfl
  rw [value, List.foldl_append]
  rcases hfront with rfl | hlast
  · exact hstart _ fun _ => rfl
  · obtain ⟨events, rfl⟩ := List.getLast?_eq_some_iff.mp hlast
    rw [List.foldl_append]
    exact hstart _ (hc.finish_reset _)

end Hasher

theorem Rolling.computes_hasher : Rolling.hasher.Computes := by
  have hfold (c : Rolling) (chunks : List Bytes) :
      chunks.foldl update c = ⟨register c.held chunks.flatten⟩ := by
    induction chunks generalizing c with
    | nil => rfl
    | cons chunk chunks ih =>
      rw [List.foldl_cons, ih, List.flatten_cons, register_append, update]
  refine ⟨fun initial chunks => ?_, fun _ _ => rfl⟩
  rw [← register_eq_takeBits]
  exact congrArg value (hfold _ chunks)

/-- Whatever the machine, the checksum of a whole goes on from that of its first part, that over
chunks is that of all since the last reset at once, a checksum is the complement of a remainder, and
an empty payload is no exception. -/
theorem Hasher.Computes.agrees {σ : Type} {h : Hasher σ} (hc : h.Computes) :
    (∀ (a b : Bytes) (seed : UInt32),
      h.crc32From seed (a ++ b) = h.crc32From (~~~h.crc32From seed a) b) ∧
    (∀ front back : List Event, front = [] ∨ front.getLast? = some .reset → .reset ∉ back →
      h.value (front ++ back) = h.crc32From 0xFFFFFFFF (back.flatMap Event.chunk) ∧
      Rolling.hasher.value (front ++ back) = h.value (front ++ back)) ∧
    (∀ (seed : UInt32) (data : Bytes),
      h.crc32From seed data = ~~~(bits data).foldl takeBit seed ∧
      h.crc32From seed data = Checksum.crc32From seed data ∧
      ofWord (~~~h.crc32From seed data) =
        (ofWord seed * X ^ (8 * data.length) + ofBits (bits data) * X ^ 32) %ₘ divisor) ∧
    ∀ payload : Bytes, h.ofPayload payload = h.crc32From 0xFFFFFFFF payload ∧
      h.ofPayload payload = Checksum.ofPayload payload := by
  refine ⟨fun a b seed => ?_, fun front back hfront hback => ⟨?_, ?_⟩,
    fun seed data => ⟨?_, hc.crc32From_eq seed data, ?_⟩, fun payload => ⟨?_, ?_⟩⟩
  · simp only [hc.crc32From_eq, Checksum.crc32From, register_append, UInt32.not_not]
  · rw [hc.value_append hfront hback, hc.crc32From_eq]
    rfl
  · rw [hc.value_append hfront hback, Rolling.computes_hasher.value_append hfront hback]
  · rw [hc.crc32From_eq, Checksum.crc32From, register_eq_takeBits]
  · rw [hc.crc32From_eq, Checksum.crc32From, UInt32.not_not, ofWord_register]
  · rw [ofPayload]
    split
    case isTrue hempty =>
      rw [List.isEmpty_iff.mp hempty, hc.crc32From_eq]
      rfl
    case isFalse => rfl
  · rw [ofPayload, hc.crc32From_eq]
    rfl

/-- The digits from 1 to 9, as a whole, from the fifth on, and in chunks after others. -/
theorem Hasher.Computes.agrees_of_digits :
    let data : Bytes := [0x31, 0x32, 0x33, 0x34, 0x35, 0x36, 0x37, 0x38, 0x39]
    Rolling.hasher.crc32From (~~~Rolling.hasher.crc32From 0xFFFFFFFF (data.take 4)) (data.drop 4) =
      0xCBF43926 ∧
    Rolling.hasher.value [.update [0xFF], .value, .reset, .update (data.take 7), .value,
      .update [], .update (data.drop 7)] = 0xCBF43926 := by
  intro data
  have hc := Rolling.computes_hasher
  have hdigits : Rolling.hasher.crc32From 0xFFFFFFFF data = 0xCBF43926 := by
    rw [(Hasher.Computes.agrees hc).2.2.1 0xFFFFFFFF data |>.2.1]
    decide +kernel
  refine ⟨?_, ?_⟩
  · rw [← (Hasher.Computes.agrees hc).1, List.take_append_drop, hdigits]
  · exact ((Hasher.Computes.agrees hc).2.1 [.update [0xFF], .value, .reset]
      [.update (data.take 7), .value, .update [], .update (data.drop 7)] (by decide)
      (by decide)).1.trans hdigits

end Coprocessor.Checksum
