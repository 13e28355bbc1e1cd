import Coprocessor.Device.Server
import Coprocessor.Pins.Bank
import Coprocessor.Proofs.Link.Stream

/-!
# Serving a stream

A device that serves a stream of frames with noise between them answers each frame
once, in order, and says nothing to the noise (`Server.serveAll_stream`). What is
written is the frames of the replies (`replies`), each of them the reply of the device
as it is after the frames before. The frames of the stream are found one by one by
`Link.Segment.Clean.read`.
-/

namespace Coprocessor.Device

open Link

variable {σ τ : Type}

/-! ## Replies -/

/-- The device after a pause in milliseconds. -/
def pause (n : Nat) (d : Device σ τ) : Device σ τ :=
  { d with station := d.station.passTo (d.station.clock + millis n) }

/-- The device after a reply was written : what happened to jobs was logged, and the time of
the pauses has passed. -/
def settle (c : Framing) (reply : Header × Bytes) (d : Device σ τ) : Device σ τ :=
  (c.bursts reply.1 reply.2).foldl (fun d b => d.pause b.pause) d.takeEntries.2

/-- The replies to the frames of a stream, and the device after them. -/
def replies (c : Framing) : Device σ τ → List Segment → List (Header × Bytes) × Device σ τ
  | d, [] => ([], d)
  | d, g :: segments =>
    let (reply, d) := d.handleFrame g.header g.payload (Segment.verdict c)
    let (rest, d) := replies c (d.settle c reply) segments
    (reply :: rest, d)

namespace Server

variable {v v' : Server σ τ} {s : Bytes}

/-! ## Writing -/

/-- One server has become the other by writing bytes to a link that takes them all, and its
device has become `d`. -/
structure Wrote (v v' : Server σ τ) (bytes : Bytes) (d : Device σ τ) : Prop where
  /-- The link is not broken. -/
  broken : v'.broken = none
  /-- The link takes any number of bytes yet. -/
  room : v'.outlet.room = none
  /-- The framing is the same. -/
  framing : v'.framing = v.framing
  /-- The device. -/
  device : v'.device = d
  /-- The bytes were written after the others. -/
  output : v'.output = v.output ++ bytes

theorem Wrote.trans {v'' : Server σ τ} {bytes bytes' : Bytes} {d d' : Device σ τ}
    (h : Wrote v v' bytes d) (h' : Wrote v' v'' bytes' d') : Wrote v v'' (bytes ++ bytes') d' where
  broken := h'.broken
  room := h'.room
  framing := h'.framing.trans h.framing
  device := h'.device
  output := by rw [h'.output, h.output, List.append_assoc]

theorem wrote_nil (hb : v.broken = none) (hr : v.outlet.room = none) : Wrote v v [] v.device :=
  ⟨hb, hr, rfl, rfl, (List.append_nil _).symm⟩

theorem wrote_report (hb : v.broken = none) (hr : v.outlet.room = none) (d : Device σ τ)
    (entries : List Log.Entry) : Wrote v ({ v with device := d }.report entries) [] d :=
  ⟨hb, hr, rfl, rfl, (List.append_nil _).symm⟩

theorem write_eq (hb : v.broken = none) (hr : v.outlet.room = none) (b : Burst) :
    v.write b = { v with
      device := v.device.pause b.pause
      broken := none
      written := ⟨(v.device.pause b.pause).station.clock, b.bytes⟩ :: v.written } := by
  have ha : v.outlet.accept b.bytes = (b.bytes, v.outlet, none) := by rw [Outlet.accept, hr]
  rw [write, if_neg (by simp [hb])]
  simp only [passTo, ha]
  rfl

theorem wrote_write (hb : v.broken = none) (hr : v.outlet.room = none) (b : Burst) :
    Wrote v (v.write b) b.bytes (v.device.pause b.pause) := by
  rw [write_eq hb hr b]
  exact ⟨rfl, hr, rfl, rfl, by simp [output, received]⟩

theorem wrote_foldl_write (hb : v.broken = none) (hr : v.outlet.room = none)
    (bursts : List Burst) : Wrote v (bursts.foldl write v) (bursts.flatMap (·.bytes))
      (bursts.foldl (fun d b => d.pause b.pause) v.device) := by
  induction bursts generalizing v with
  | nil => exact wrote_nil hb hr
  | cons b bursts ih =>
    have first := wrote_write hb hr b
    have others := ih first.broken first.room
    rw [first.device] at others
    exact first.trans others

/-- The reply to a frame is written. -/
theorem wrote_answer (hb : v.broken = none) (hr : v.outlet.room = none) {f : Frame}
    {reply : Header × Bytes} {d : Device σ τ}
    (hh : v.device.handleFrame f.header f.payload f.verdict = (reply, d)) :
    Wrote v (v.answer f) (v.framing.frame reply.1 reply.2) (d.settle v.framing reply) := by
  rw [handleFrame] at hh
  rcases hd : v.device.respond f.header f.payload f.verdict with ⟨response, d'⟩
  rw [hd] at hh
  cases hh
  have logged := wrote_report hb hr d.takeEntries.2
    (d.takeEntries.1 ++ (response.entry? f.header).toList)
  have written := wrote_foldl_write logged.broken logged.room
    (v.framing.bursts (response.frame f.header).1 (response.frame f.header).2)
  rw [Framing.bytes_bursts, logged.device] at written
  rw [answer, hd]
  exact logged.trans written

/-! ## Steps of serving -/

theorem serve_of_frame {f : Frame} (hb : v.broken = none)
    (hf : (v.framing.read s).finding = .frame f) : v.serve s =
      ((v.report (v.framing.read s).entries).answer f).serve (v.framing.read s).rest := by
  rw [serve, if_neg (by simp [hb])]
  dsimp only
  split
  case h_1 h => simp [hf] at h
  case h_2 h => simp [hf] at h
  case h_3 f' h =>
    rw [hf] at h
    cases h
    rfl

theorem serve_of_noise (hb : v.broken = none) (hf : (v.framing.read s).finding = .noise) :
    v.serve s = (v.report ((v.framing.read s).entries ++ [noiseEntry])).serve
      (v.framing.read s).rest := by
  rw [serve, if_neg (by simp [hb])]
  dsimp only
  split
  case h_1 h => simp [hf] at h
  case h_2 h => rfl
  case h_3 h => simp [hf] at h

theorem serve_of_starved {x : Bool} (hb : v.broken = none)
    (hf : (v.framing.read s).finding = .starved x) : v.serve s = (s, v) := by
  rw [serve, if_neg (by simp [hb])]
  dsimp only
  split
  case h_1 => rfl
  case h_2 h => simp [hf] at h
  case h_3 h => simp [hf] at h

/-- Noise to the end is read until too few bytes are left, and nothing is said to it. -/
theorem serve_of_quiet (hb : v.broken = none) (hr : v.outlet.room = none)
    (hq : v.framing.Quiet s) : Wrote v (v.serve s).2 [] v.device := by
  induction hn : s.length using Nat.strongRecOn generalizing s v with
  | ind n ih =>
    cases hf : (v.framing.read s).finding with
    | frame f => exact absurd hf (hq.read_ne_frame f)
    | starved x =>
      rw [serve_of_starved hb hf]
      exact wrote_nil hb hr
    | noise =>
      rw [serve_of_noise hb hf]
      have logged := wrote_report hb hr v.device ((v.framing.read s).entries ++ [noiseEntry])
      have hl := Framing.length_read_of_noise hf
      exact logged.trans (ih _ (by omega) logged.broken logged.room hq.rest rfl)

/-- The frame of a clean segment is answered, and serving goes on behind it. -/
theorem serve_of_clean (hb : v.broken = none) (hr : v.outlet.room = none) {g : Segment}
    (hg : g.Clean v.framing) (rest : Bytes) {reply : Header × Bytes} {d : Device σ τ}
    (hh : v.device.handleFrame g.header g.payload (Segment.verdict v.framing) = (reply, d)) :
    ∃ v', Wrote v v' (v.framing.frame reply.1 reply.2) (d.settle v.framing reply) ∧
      v.serve (g.bytes v.framing ++ rest) = v'.serve rest := by
  obtain ⟨hf, hleft⟩ := hg.read rest
  rw [serve_of_frame hb hf, hleft]
  have logged := wrote_report hb hr v.device (v.framing.read (g.bytes v.framing ++ rest)).entries
  exact ⟨_, logged.trans (wrote_answer logged.broken logged.room hh), rfl⟩

/-- The frames of clean segments are answered one after the other. -/
theorem serve_of_segments (hb : v.broken = none) (hr : v.outlet.room = none)
    {segments : List Segment} (hs : ∀ g ∈ segments, g.Clean v.framing) {tail : Bytes}
    (hq : v.framing.Quiet tail) :
    let r := v.device.replies v.framing segments
    Wrote v (v.serve (segments.flatMap (·.bytes v.framing) ++ tail)).2
      (r.1.flatMap fun reply => v.framing.frame reply.1 reply.2) r.2 := by
  induction segments generalizing v with
  | nil => exact serve_of_quiet hb hr hq
  | cons g segments ih =>
    obtain ⟨hclean, hrest⟩ := List.forall_mem_cons.mp hs
    rcases hh : v.device.handleFrame g.header g.payload (Segment.verdict v.framing) with ⟨reply, d⟩
    obtain ⟨v', first, hserve⟩ := serve_of_clean hb hr hclean
      (segments.flatMap (·.bytes v.framing) ++ tail) hh
    rw [List.flatMap_cons, List.append_assoc, hserve]
    have others := ih first.broken first.room
    rw [first.framing, first.device] at others
    simp only [replies, hh, List.flatMap_cons]
    exact first.trans (others hrest hq)

/-- A device that serves a stream of clean segments and then a tail without an acceptable
header writes the frames of its replies, in order and nothing else, and serving ends with the
stream. -/
theorem serveAll_stream (c : Framing) (d : Device σ τ) (segments : List Segment) (tail : Bytes)
    (hs : ∀ g ∈ segments, g.Clean c) (hq : c.Quiet tail) :
    let v := serveAll (segments.flatMap (·.bytes c) ++ tail) { framing := c, device := d }
    v.output = ((d.replies c segments).1.flatMap fun reply => c.frame reply.1 reply.2) ∧
      v.device = (d.replies c segments).2 ∧ v.closing .endOfStream = none := by
  have served := @serve_of_segments _ _ { framing := c, device := d } rfl rfl segments hs tail hq
  dsimp only at served
  rw [serveAll]
  generalize serve (segments.flatMap (·.bytes c) ++ tail) _ = r at served ⊢
  obtain ⟨rest, v⟩ := r
  dsimp only at served ⊢
  rw [if_neg (by simp [served.broken])]
  have logged := wrote_report served.broken served.room v.device (v.framing.read rest).entries
  have all := served.trans logged
  refine ⟨by simpa [output, received] using all.output, served.device, ?_⟩
  rw [closing, all.broken]
  rfl

/-- A device is greeted behind a magic whose length is over the limit, and says nothing to it
nor to the beginning of a magic at the end. -/
theorem output_of_greeting :
    (serveAll ([⟨[0x43, 0x50, 0x52, 0x30, 0xFF, 0xFF], .request .hello 7 [], []⟩].flatMap
        (Segment.bytes {}) ++ [0x43, 0x50])
      { framing := {}
        device := start {} Pins.Bank.board (·.waited)
          (.emulator Handoff.Emulation.usualBudget) {} }).output =
      Framing.frame {} (.reply (.request .hello 7 []) [0, 0, 0, 0, 1, 0, 0, 0, 15, 0, 0, 0])
        [0, 0, 0, 0, 1, 0, 0, 0, 15, 0, 0, 0] := by
  refine (serveAll_stream {} _ _ [0x43, 0x50] ?_ (Framing.quiet_of_length_lt (by decide))).1.trans ?_
  · intro g hg
    obtain rfl := List.mem_singleton.mp hg
    exact ⟨rfl, rfl, by decide, by decide, by decide⟩
  · decide +kernel

end Server

end Coprocessor.Device
