import Coprocessor.Host.Loopback
import Coprocessor.Proofs.Device.Serving
import Coprocessor.Proofs.Handoff.Schedule
import Coprocessor.Proofs.Link.Bursts
import Mathlib.Data.List.TakeDrop
import Mathlib.Data.List.TakeWhile

/-!
# A client and a device on one link

Between exchanges nothing is under way on a link that loses nothing (`Host.Linked`). A
request then goes out in bursts. The device waits until it has all of the frame
(`Host.Joined.deliver_of_cut`), answers it once (`Host.Joined.deliver_of_frame`) and says
nothing to what may follow of the writing (`Host.Joined.send_rest`). The bursts of its reply
are all that the client finds on the link (`Host.receive_of_reply`). So an exchange returns the
payload of the reply of the device, and client and device are linked again, or its time is over
(`Host.Linked.exchange_or_overdue`). If there is time enough it is the former
(`Host.Linked.exchange`).
-/

namespace Coprocessor

open Link

/-! ## Devices that are left alone -/

namespace Device

open Handoff

variable {σ τ : Type} {d d' d'' : Device σ τ}

/-- One device becomes the other while no request comes : the worker acts and time passes. -/
def Idles (d d' : Device σ τ) : Prop :=
  ∃ s, d.station.Works s ∧ d' = { d with station := s }

theorem Idles.refl : d.Idles d :=
  ⟨d.station, .refl, rfl⟩

theorem Idles.trans (h : d.Idles d') (h' : d'.Idles d'') : d.Idles d'' := by
  obtain ⟨s, hs, rfl⟩ := h
  obtain ⟨s', hs', rfl⟩ := h'
  exact ⟨s', hs.trans hs', rfl⟩

theorem idles_passTo (time : Nat) : d.Idles { d with station := d.station.passTo time } :=
  ⟨_, Station.works_passTo time, rfl⟩

/-- One device becomes the other as time passes, up to some time at most : the worker acts when
it is time. -/
inductive WaitsUntil (limit : Nat) (d : Device σ τ) : Device σ τ → Prop
  | refl : WaitsUntil limit d d
  | pass {d' : Device σ τ} (h : WaitsUntil limit d d') {time : Nat} (ht : time ≤ limit) :
      WaitsUntil limit d { d' with station := d'.station.passTo time }

variable {limit time : Nat}

theorem waitsUntil_passTo (ht : time ≤ limit) :
    d.WaitsUntil limit { d with station := d.station.passTo time } :=
  .pass .refl ht

theorem WaitsUntil.trans (h : d.WaitsUntil limit d') (h' : d'.WaitsUntil limit d'') :
    d.WaitsUntil limit d'' := by
  induction h' with
  | refl => exact h
  | pass _ ht ih => exact ih.pass ht

theorem WaitsUntil.idles (h : d.WaitsUntil limit d') : d.Idles d' := by
  induction h with
  | refl => exact .refl
  | @pass _ _ time _ ih => exact ih.trans (idles_passTo time)

/-- The clock of the device is not ahead then. -/
theorem WaitsUntil.clock_le (h : d.WaitsUntil limit d') (hd : d.station.clock ≤ limit) :
    d'.station.clock ≤ limit := by
  induction h with
  | refl => exact hd
  | pass _ ht ih => exact Nat.max_le.mpr ⟨ht, ih⟩

theorem idles_settle (c : Framing) (reply : Header × Bytes) : d.Idles (d.settle c reply) := by
  have paused : ∀ (bursts : List Burst) (d' : Device σ τ), d.Idles d' →
      d.Idles (bursts.foldl (fun d b => d.pause b.pause) d') := by
    intro bursts
    induction bursts with
    | nil => exact fun d' h => h
    | cons b bursts ih => exact fun d' h => ih _ (h.trans (idles_passTo _))
  exact paused _ _ ⟨_, Station.Works.refl.elapse _ _ _ _ [], rfl⟩

theorem clock_pause (n : Nat) : (d.pause n).station.clock = d.station.clock + millis n :=
  Nat.max_eq_left (Nat.le_add_right _ _)

theorem clock_foldl_pause (bursts : List Burst) :
    (bursts.foldl (fun d b => d.pause b.pause) d).station.clock =
      d.station.clock + millis (pauses bursts) := by
  induction bursts generalizing d with
  | nil => rfl
  | cons b bursts ih =>
    rw [List.foldl_cons, ih, clock_pause, pauses_cons, Nat.add_assoc]
    simp only [millis, Nat.mul_add]

theorem clock_settle (c : Framing) (reply : Header × Bytes) :
    (d.settle c reply).station.clock = d.station.clock + millis (c.delay reply.2) := by
  rw [settle, clock_foldl_pause, Framing.pauses_bursts]
  rfl

namespace Server

variable {v v' : Server σ τ}

/-- What is written arrives when the pauses before it are over. -/
theorem written_foldl_write (hb : v.broken = none) (hr : v.outlet.room = none)
    (bursts : List Burst) : (bursts.foldl write v).written.reverse =
      v.written.reverse ++ arrivals v.device.station.clock bursts := by
  induction bursts generalizing v with
  | nil => simp [arrivals]
  | cons b bursts ih =>
    have first := wrote_write hb hr b
    rw [List.foldl_cons, ih first.broken first.room, first.device, clock_pause, write_eq hb hr]
    simp [arrivals, clock_pause]

theorem written_answer (hb : v.broken = none) (hr : v.outlet.room = none) {f : Frame}
    {reply : Header × Bytes} {d : Device σ τ}
    (hh : v.device.handleFrame f.header f.payload f.verdict = (reply, d)) :
    (v.answer f).written.reverse =
      v.written.reverse ++ arrivals d.station.clock (v.framing.bursts reply.1 reply.2) := by
  rw [handleFrame] at hh
  rcases hd : v.device.respond f.header f.payload f.verdict with ⟨response, d'⟩
  rw [hd] at hh
  cases hh
  have logged := wrote_report hb hr d.takeEntries.2
    (d.takeEntries.1 ++ (response.entry? f.header).toList)
  have written := written_foldl_write logged.broken logged.room
    (v.framing.bursts (response.frame f.header).1 (response.frame f.header).2)
  rw [logged.device] at written
  rw [answer, hd]
  exact written

/-- All of a frame is answered by the bursts of one reply. -/
theorem exists_serve_frame (hb : v.broken = none) (hr : v.outlet.room = none)
    (hw : v.written = []) {h : Header} {payload : Bytes} (hm : h.magic = Header.magicWord)
    (hl : h.length.toNat = payload.length) (hf : payload.length ≤ v.framing.maxPayload)
    {reply : Header × Bytes} {d : Device σ τ}
    (hh : v.device.handleFrame h payload (Segment.verdict v.framing) = (reply, d)) :
    ∃ v' bytes, v.serve (v.framing.frame h payload) = ([], v') ∧
      Wrote v v' bytes (d.settle v.framing reply) ∧
      v'.written.reverse = arrivals d.station.clock (v.framing.bursts reply.1 reply.2) := by
  obtain ⟨hfinding, hrest⟩ := Framing.read_frame hm hl hf
  have logged := wrote_report hb hr v.device (v.framing.read (v.framing.frame h payload)).entries
  have answered := @wrote_answer _ _ _ logged.broken logged.room
    ⟨h, payload, Segment.verdict v.framing, 0⟩ _ _ hh
  have written := @written_answer _ _ _ logged.broken logged.room
    ⟨h, payload, Segment.verdict v.framing, 0⟩ _ _ hh
  refine ⟨_, _, ?_, logged.trans answered, ?_⟩
  · rw [serve_of_frame hb hfinding, hrest]
    exact serve_of_starved answered.broken (x := false) rfl
  · rw [written, report, hw]
    rfl

end Server

end Device

namespace Host

open Handoff

variable {σ τ : Type} {c : Framing} {l l' : Line (Loopback σ τ)} {d d' : Device σ τ}
  {unread : Bytes} {bursts : List Burst} {deadline : Nat} {h : Header} {payload : Bytes}

/-! ## Requests on the line -/

/-- A line that loses nothing to a device that has taken some bytes, which are not yet a frame,
and has said all that it has to say. -/
structure Joined (c : Framing) (l : Line (Loopback σ τ)) (d : Device σ τ) (unread : Bytes) :
    Prop where
  /-- There is a device at the other end. -/
  react : l.react = Loopback.react
  /-- The line takes any number of bytes. -/
  room : l.outlet.room = none
  /-- The bytes that the device has taken. -/
  unread : l.far.unread = unread
  /-- The device has found no fault. -/
  broken : l.far.server.broken = none
  /-- The line takes any number of bytes of the device. -/
  farRoom : l.far.server.outlet.room = none
  /-- What the device has said is on the line. -/
  written : l.far.server.written = []
  /-- The framing of the device. -/
  framing : l.far.server.framing = c
  /-- The device. -/
  device : l.far.server.device = d

/-- What becomes of the line when bytes reach the device. -/
theorem Joined.deliver (hj : Joined c l d unread) (s : Bytes) {rest : Bytes}
    {v' : Device.Server σ τ} (hs : (l.far.server.passTo l.clock).serve (unread ++ s) = (rest, v'))
    (hb : v'.broken = none) (hr : v'.outlet.room = none) (hf : v'.framing = c) :
    Joined c (l.deliver s) v'.device rest ∧ (l.deliver s).inlet = l.inlet ++ v'.written.reverse ∧
      (l.deliver s).clock = l.clock := by
  have hreact : l.react l.clock s l.far = ((v'.written.reverse, v'.log.reverse),
      ⟨{ v' with written := [], log := [] }, rest⟩) := by
    rw [hj.react, Loopback.react, hj.unread, hs]
  rw [Line.deliver, hreact]
  exact ⟨⟨hj.react, hj.room, rfl, hb, hr, rfl, hf, rfl⟩, rfl, rfl⟩

/-- While the device has only the beginning of a frame it waits. -/
theorem Joined.deliver_of_cut (hj : Joined c l d unread) {s : Bytes}
    (hcut : ∃ x, (c.read (unread ++ s)).finding = .starved x) :
    Joined c (l.deliver s) { d with station := d.station.passTo l.clock } (unread ++ s) ∧
      (l.deliver s).inlet = l.inlet ∧ (l.deliver s).clock = l.clock := by
  obtain ⟨x, hx⟩ := hcut
  have hserve : (l.far.server.passTo l.clock).serve (unread ++ s) =
      (unread ++ s, l.far.server.passTo l.clock) := by
    refine Device.Server.serve_of_starved (x := x) hj.broken ?_
    rw [← hx, ← hj.framing]
    rfl
  obtain ⟨joined, hinlet, hclock⟩ := hj.deliver s hserve hj.broken hj.farRoom hj.framing
  refine ⟨?_, ?_, hclock⟩
  · rw [← hj.device]
    exact joined
  · rw [hinlet]
    simp [Device.Server.passTo, hj.written]

/-- When the device has all of a frame it answers it. -/
theorem Joined.deliver_of_frame (hj : Joined c l d unread) {s : Bytes}
    (hw : unread ++ s = c.frame h payload) (hm : h.magic = Header.magicWord)
    (hl : h.length.toNat = payload.length) (hf : payload.length ≤ c.maxPayload)
    {reply : Header × Bytes}
    (hh : Device.handleFrame h payload (Segment.verdict c)
      { d with station := d.station.passTo l.clock } = (reply, d')) :
    Joined c (l.deliver s) (d'.settle c reply) [] ∧
      (l.deliver s).inlet = l.inlet ++ arrivals d'.station.clock (c.bursts reply.1 reply.2) ∧
      (l.deliver s).clock = l.clock := by
  have hframing : (l.far.server.passTo l.clock).framing = c := hj.framing
  have hdevice : (l.far.server.passTo l.clock).device =
      { d with station := d.station.passTo l.clock } := by
    rw [← hj.device]
    rfl
  have hanswer : Device.handleFrame h payload
      (Segment.verdict (l.far.server.passTo l.clock).framing)
      (l.far.server.passTo l.clock).device = (reply, d') := by rw [hframing, hdevice, hh]
  obtain ⟨v', bytes, hserve, wrote, hwritten⟩ := Device.Server.exists_serve_frame
    (v := l.far.server.passTo l.clock) hj.broken hj.farRoom hj.written hm hl
    (by rw [hframing]; exact hf) hanswer
  rw [hframing] at hserve hwritten
  rw [← hw] at hserve
  obtain ⟨joined, hinlet, hclock⟩ := hj.deliver s hserve wrote.broken wrote.room
    (wrote.framing.trans hframing)
  rw [wrote.device, hframing] at joined
  rw [hwritten] at hinlet
  exact ⟨joined, hinlet, hclock⟩

/-- The line after a pause in milliseconds. -/
def paused (n : Nat) (l : Line (Loopback σ τ)) : Line (Loopback σ τ) :=
  { l with clock := l.clock + millis n }

/-- Time, the log and what is on the line do not matter. -/
theorem Joined.of_eq (hj : Joined c l d unread) (hr : l'.react = l.react)
    (ho : l'.outlet = l.outlet) (hf : l'.far = l.far) : Joined c l' d unread where
  react := hr.trans hj.react
  room := ho ▸ hj.room
  unread := hf ▸ hj.unread
  broken := hf ▸ hj.broken
  farRoom := hf ▸ hj.farRoom
  written := hf ▸ hj.written
  framing := hf ▸ hj.framing
  device := hf ▸ hj.device

theorem Joined.of_paused (hj : Joined c l d unread) (n : Nat) : Joined c (paused n l) d unread :=
  hj.of_eq rfl rfl rfl

/-- A burst goes out if there is time for its pause. -/
theorem send_cons (hr : l.outlet.room = none) (b : Burst) (bursts : List Burst)
    (ht : l.clock + millis b.pause ≤ deadline) :
    l.send deadline (b :: bursts) = ((paused b.pause l).deliver b.bytes).send deadline bursts := by
  have ha : l.outlet.accept b.bytes = (b.bytes, l.outlet, none) := by rw [Outlet.accept, hr]
  rw [Line.send]
  simp only [ha]
  exact if_neg (Nat.not_lt.mpr ht)

theorem clock_add_pauses_cons (n : Nat) (b : Burst) (bursts : List Burst) :
    n + millis (pauses (b :: bursts)) =
      n + millis b.pause + millis (pauses bursts) := by
  simp only [pauses_cons, millis, Nat.mul_add, Nat.add_assoc]

/-- If there is no time for the pauses the time is over before all is written. -/
theorem exists_send_late (hr : l.outlet.room = none) (hc : l.clock ≤ deadline)
    (ht : deadline < l.clock + millis (pauses bursts)) :
    ∃ l', l.send deadline bursts = (.error .late, l') := by
  induction bursts generalizing l with
  | nil => exact absurd ht (Nat.not_lt.mpr hc)
  | cons b bursts ih =>
    rw [clock_add_pauses_cons] at ht
    by_cases hb : l.clock + millis b.pause ≤ deadline
    · rw [send_cons hr b bursts hb]
      exact ih hr hb ht
    · rw [Line.send]
      exact ⟨_, if_pos (Nat.lt_of_not_le hb)⟩

/-- What is left of a writing when the device has all of the frame holds no bytes, and nothing
is said to it. -/
theorem Joined.send_rest (hj : Joined c l d []) (he : bursts.flatMap (·.bytes) = [])
    (ht : l.clock + millis (pauses bursts) ≤ deadline) :
    ∃ l' d', l.send deadline bursts = (.ok (), l') ∧ Joined c l' d' [] ∧ d.Idles d' ∧
      d'.station.clock ≤ max l'.clock d.station.clock ∧ l'.inlet = l.inlet ∧
      l'.clock = l.clock + millis (pauses bursts) := by
  induction bursts generalizing l d with
  | nil => exact ⟨l, d, rfl, hj, .refl, Nat.le_max_right _ _, rfl, rfl⟩
  | cons b bursts ih =>
    obtain ⟨hb, he⟩ : b.bytes = [] ∧ bursts.flatMap (·.bytes) = [] := List.append_eq_nil_iff.mp he
    rw [clock_add_pauses_cons] at ht ⊢
    obtain ⟨joined, hinlet, hclock⟩ := (hj.of_paused b.pause).deliver_of_cut (s := b.bytes) (by
      rw [hb]
      exact ⟨_, rfl⟩)
    have hnil : [] ++ b.bytes = [] := hb
    rw [hnil] at joined
    obtain ⟨l', d', hsend, joined', idles, hlate, hinlet', hclock'⟩ :=
      ih joined he (by rw [hclock]; exact ht)
    rw [hclock] at hclock'
    refine ⟨l', d', ?_, joined', (Device.idles_passTo _).trans idles, ?_, hinlet'.trans hinlet,
      hclock'⟩
    · rw [send_cons hj.room b bursts (by omega), hsend]
    · have hpassed : (d.station.passTo (paused b.pause l).clock).clock =
          max (paused b.pause l).clock d.station.clock := rfl
      have hle : (paused b.pause l).clock ≤ l'.clock := hclock' ▸ Nat.le_add_right _ _
      dsimp only at hlate
      omega

/-- When a request is written the device answers it once, and the bursts of its reply are on
the line. -/
theorem Joined.send_frame (hj : Joined c l d unread) (hc : d.station.clock ≤ l.clock)
    (hw : unread ++ bursts.flatMap (·.bytes) = c.frame h payload)
    (hcut : unread.length < (c.frame h payload).length) (hm : h.magic = Header.magicWord)
    (hl : h.length.toNat = payload.length) (hf : payload.length ≤ c.maxPayload)
    (ht : l.clock + millis (pauses bursts) ≤ deadline) :
    ∃ l' d₁ d₂, l.send deadline bursts = (.ok (), l') ∧
      d.WaitsUntil (l.clock + millis (pauses bursts)) d₁ ∧
      let r := d₁.handleFrame h payload (Segment.verdict c)
      r.2.Idles d₂ ∧ Joined c l' d₂ [] ∧
        l'.clock = l.clock + millis (pauses bursts) ∧
        l'.inlet = l.inlet ++ arrivals r.2.station.clock (c.bursts r.1.1 r.1.2) ∧
        d₂.station.clock ≤ max l'.clock (r.2.station.clock + millis (c.delay r.1.2)) := by
  induction bursts generalizing l d unread with
  | nil =>
    rw [List.flatMap_nil, List.append_nil] at hw
    simp [hw] at hcut
  | cons b bursts ih =>
    rw [List.flatMap_cons, ← List.append_assoc] at hw
    rw [clock_add_pauses_cons] at ht ⊢
    have hclock : (d.station.passTo (paused b.pause l).clock).clock = (paused b.pause l).clock :=
      Nat.max_eq_left (Nat.le_trans hc (Nat.le_add_right _ _))
    have passed : d.WaitsUntil
        (l.clock + millis b.pause + millis (pauses bursts))
        { d with station := d.station.passTo (paused b.pause l).clock } :=
      Device.waitsUntil_passTo (Nat.le_add_right _ _)
    by_cases hwhole : unread ++ b.bytes = c.frame h payload
    · -- the rest of the bursts is empty
      have he : bursts.flatMap (·.bytes) = [] := by
        rw [hwhole] at hw
        simpa using hw
      rcases hh : Device.handleFrame h payload (Segment.verdict c)
        { d with station := d.station.passTo (paused b.pause l).clock } with ⟨reply, d'⟩
      obtain ⟨joined, hinlet, hclock'⟩ :=
        (hj.of_paused b.pause).deliver_of_frame hwhole hm hl hf hh
      obtain ⟨l', d₂, hsend, joined', idles, hlate, hinlet', hclock''⟩ :=
        @Joined.send_rest _ _ _ _ _ _ deadline joined he (by rw [hclock']; exact ht)
      refine ⟨l', _, d₂, ?_, passed, ?_⟩
      · rw [send_cons hj.room b bursts (by omega), hsend]
      · rw [hh]
        refine ⟨(Device.idles_settle c reply).trans idles, joined', ?_, hinlet'.trans hinlet, ?_⟩
        · rw [hclock'', hclock']
          rfl
        · rwa [Device.clock_settle] at hlate
    · -- the device waits for more
      have hbegins : unread ++ b.bytes <+: c.frame h payload := ⟨_, hw⟩
      have hlt : (unread ++ b.bytes).length < (c.frame h payload).length :=
        Nat.lt_of_le_of_ne hbegins.length_le fun he => hwhole (hbegins.eq_of_length he)
      obtain ⟨joined, hinlet, hclock'⟩ := (hj.of_paused b.pause).deliver_of_cut
        (Framing.exists_read_of_cut hm hl hf hbegins hlt)
      obtain ⟨l', d₁, d₂, hsend, waits, hrest⟩ :=
        ih joined (by rw [hclock']; exact Nat.le_of_eq hclock) hw hlt (by rw [hclock']; exact ht)
      rw [hclock'] at waits hrest
      rw [hinlet] at hrest
      refine ⟨l', d₁, d₂, ?_, passed.trans waits, hrest⟩
      rw [send_cons hj.room b bursts (by omega), hsend]

/-! ## Replies on the line -/

theorem dropBytes_received (arrived : List Arrival) :
    Line.dropBytes (received arrived).length arrived = [] := by
  induction arrived with
  | nil => rfl
  | cons a arrived ih =>
    have hl : (received (a :: arrived)).length = a.bytes.length + (received arrived).length := by
      simp [received]
    rw [hl, Line.dropBytes, if_pos (Nat.le_add_right _ _), Nat.add_sub_cancel_left, ih]

theorem le_timeOf (now n : Nat) (arrived : List Arrival) : now ≤ Line.timeOf now n arrived := by
  induction arrived generalizing now n with
  | nil => cases n <;> exact Nat.le_refl _
  | cons a arrived ih =>
    cases n with
    | zero => exact Nat.le_refl _
    | succ n => exact Nat.le_trans (Nat.le_max_left _ _) (ih _ _)

/-- Bytes have come no earlier than the arrival that some of them are in. -/
theorem time_le_timeOf {now n : Nat} {before after : List Arrival} {last : Arrival}
    (hn : (received before).length < n) :
    last.time ≤ Line.timeOf now n (before ++ last :: after) := by
  induction before generalizing now n with
  | nil =>
    obtain ⟨n, rfl⟩ := Nat.exists_eq_succ_of_ne_zero (Nat.ne_of_gt hn)
    exact Nat.le_trans (Nat.le_max_right _ _) (le_timeOf _ _ _)
  | cons a before ih =>
    have hl : (received (a :: before)).length = a.bytes.length + (received before).length := by
      simp [received]
    obtain ⟨n, rfl⟩ := Nat.exists_eq_succ_of_ne_zero (Nat.ne_of_gt (Nat.zero_lt_of_lt hn))
    exact ih (by omega)

variable {near : Framing}

/-- A reply to an earlier request is dropped. -/
theorem awaitReply_of_earlier (command : Command) {sequence : UInt32} {s : Bytes} {f : Frame}
    (hf : (near.read s).finding = .frame f) (he : isEarlier f.header.sequence sequence = true) :
    awaitReply near command sequence s =
      { awaitReply near command sequence (near.read s).rest with
        entries := (near.read s).entries ++ lateEntry command sequence f.header ::
          (awaitReply near command sequence (near.read s).rest).entries } := by
  rw [awaitReply]
  dsimp only
  split
  case h_1 f' h =>
    rw [hf] at h
    cases h
    rw [if_pos he]
  case h_2 h => exact absurd hf (h f)

/-- The replies to earlier requests are looked through no further than another one. -/
theorem awaitReply_of_not_earlier (command : Command) {sequence : UInt32} {s : Bytes} {f : Frame}
    (hf : (near.read s).finding = .frame f) (he : isEarlier f.header.sequence sequence = false) :
    awaitReply near command sequence s = ⟨.frame f, (near.read s).rest, (near.read s).entries⟩ := by
  rw [awaitReply]
  dsimp only
  split
  case h_1 f' h =>
    rw [hf] at h
    cases h
    rw [if_neg (by simp [he])]
  case h_2 h => exact absurd hf (h f)

/-- The reply to the present request ends the search. -/
theorem awaitReply_of_frame (command : Command) {sequence : UInt32} {s : Bytes} {f : Frame}
    (hf : (near.read s).finding = .frame f) (hs : f.header.sequence = sequence) :
    awaitReply near command sequence s = ⟨.frame f, (near.read s).rest, (near.read s).entries⟩ :=
  awaitReply_of_not_earlier command hf (by
    rw [hs, isEarlier, UInt32.sub_self]
    rfl)

theorem awaitReply_of_starved (command : Command) (sequence : UInt32) {s : Bytes} {x : Bool}
    (hx : (near.read s).finding = .starved x) :
    awaitReply near command sequence s =
      ⟨.starved x, (near.read s).rest, (near.read s).entries⟩ := by
  rw [awaitReply]
  dsimp only
  split
  case h_1 f h =>
    rw [hx] at h
    cases h
  case h_2 h => rw [hx]

/-- What comes by the deadline is all that there is, if all comes by then. -/
theorem span_time {arrived : List Arrival} (ht : ∀ a ∈ arrived, a.time ≤ deadline) :
    arrived.span (·.time ≤ deadline) = (arrived, []) := by
  have hall : ∀ a ∈ arrived, decide (a.time ≤ deadline) = true := fun a ha =>
    decide_eq_true (ht a ha)
  rw [List.span_eq_takeWhile_dropWhile, List.takeWhile_eq_self_iff.mpr hall,
    List.dropWhile_eq_nil_iff.mpr hall]

/-- The bursts of a reply are read as the reply, and nothing is left of them. -/
theorem receive_of_reply (ha : near.trailing = c.trailing) {time : Nat}
    (hi : l.inlet = arrivals time (c.bursts h payload)) (hm : h.magic = Header.magicWord)
    (hl : h.length.toNat = payload.length) (hf : payload.length ≤ near.maxPayload)
    (ht : time + millis (c.delay payload) ≤ deadline) (command : Command) :
    ∃ clock entries, l.receive near command h.sequence deadline =
        (.ok ⟨h, payload, Segment.verdict near, 0⟩,
          { l.report entries with inlet := [], clock := clock }) ∧
      l.clock ≤ clock ∧ time + millis (c.delay payload) ≤ clock := by
  obtain ⟨hfinding, hrest⟩ := Framing.read_frame hm hl hf
  have hs : received l.inlet = near.frame h payload := by
    rw [hi, received_arrivals, Framing.bytes_bursts, ← Framing.frame_congr ha]
  have hspan : l.inlet.span (·.time ≤ deadline) = (l.inlet, []) := by
    refine span_time fun a hmem => ?_
    rw [hi] at hmem
    have := time_le_of_mem_arrivals hmem
    rw [Framing.pauses_bursts] at this
    omega
  have hawait := awaitReply_of_frame command hfinding rfl
  rw [hrest] at hawait
  refine ⟨Line.timeOf l.clock (received l.inlet).length l.inlet,
    (near.read (near.frame h payload)).entries, ?_, le_timeOf _ _ _, ?_⟩
  · rw [Line.receive]
    simp only [hspan]
    rw [hs, hawait, ← hs]
    simp only [List.length_nil, Nat.sub_zero, dropBytes_received, List.append_nil]
    rfl
  · obtain ⟨before, last, after, harrivals, hne, htime⟩ :=
      c.exists_arrivals_bursts h payload time
    rw [hi, harrivals, ← htime]
    refine time_le_timeOf ?_
    have hpos := List.length_pos_iff.mpr hne
    simp only [received, List.flatMap_append, List.flatMap_cons, List.length_append]
    omega

/-- The time is over before all of a reply has come. -/
theorem exists_receive_late (ha : near.trailing = c.trailing) {time : Nat}
    (hi : l.inlet = arrivals time (c.bursts h payload)) (hm : h.magic = Header.magicWord)
    (hl : h.length.toNat = payload.length) (hf : payload.length ≤ near.maxPayload)
    (ht : deadline < time + millis (c.delay payload)) (command : Command)
    (sequence : UInt32) :
    ∃ l', l.receive near command sequence deadline = (.error .late, l') := by
  have hspan := @List.span_eq_takeWhile_dropWhile _ (fun a : Arrival => a.time ≤ deadline) l.inlet
  have hsplit := @List.takeWhile_append_dropWhile _ (fun a : Arrival => a.time ≤ deadline) l.inlet
  generalize hdue : l.inlet.takeWhile _ = due at hspan hsplit
  generalize hlater : l.inlet.dropWhile _ = later at hspan hsplit
  -- the last bytes come too late
  obtain ⟨before, last, after, harrivals, hne, htime⟩ := c.exists_arrivals_bursts h payload time
  have hlast : last ∈ later := by
    have hmem : last ∈ due ++ later := by simp [hsplit, hi, harrivals]
    refine (List.mem_append.mp hmem).resolve_left fun hin => ?_
    rw [← hdue] at hin
    have hearly := List.mem_takeWhile_imp hin
    rw [decide_eq_true_iff] at hearly
    omega
  have hwhole : received due ++ received later = near.frame h payload := by
    rw [received, received, ← List.flatMap_append, hsplit, hi, Framing.frame_congr ha,
      ← Framing.bytes_bursts]
    exact received_arrivals _ _
  have hlt : (received due).length < (near.frame h payload).length := by
    have hpos : 0 < (received later).length :=
      List.length_pos_iff.mpr fun hnil => hne (List.flatMap_eq_nil_iff.mp hnil last hlast)
    rw [← hwhole, List.length_append]
    omega
  obtain ⟨x, hx⟩ := Framing.exists_read_of_cut hm hl hf ⟨_, hwhole⟩ hlt
  have hlater : later.isEmpty = false := by
    rw [List.isEmpty_eq_false_iff]
    exact List.ne_nil_of_mem hlast
  simp only [Line.receive, hspan, awaitReply_of_starved command sequence hx, hlater]
  exact ⟨_, rfl⟩

/-! ## Exchanges -/

/-- A client is linked to a device : the line between them loses nothing, and nothing is under
way on it. -/
structure Linked (s : Settings) (c : Framing) (k : Client (Loopback σ τ)) (d : Device σ τ) :
    Prop where
  /-- The settings of the client. -/
  settings : k.settings = s
  /-- The device is at the other end of the line, and has answered all that it has taken. -/
  joined : Joined c k.line d []
  /-- There is nothing to read. -/
  inlet : k.line.inlet = []
  /-- The clock of the device is not ahead. -/
  clock : d.station.clock ≤ k.line.clock

/-- A client and a device that was just turned on. -/
def joinedAtStart (d : Device σ τ) : Client (Loopback σ τ) where
  settings := {}
  line := { react := Loopback.react, far := { server := { framing := {}, device := d } } }

/-- However long the device was left alone, it takes no more than some milliseconds for a
request, and its reply is no longer than some bytes. -/
def Prompt (wait size : Nat) (command : Command) (payload : Bytes) (d : Device σ τ) : Prop :=
  ∀ d', d.Idles d' →
    (d'.handle command payload).2.station.clock ≤ d'.station.clock + millis wait ∧
      (d'.handle command payload).1.length ≤ size

/-- The code of a reply has the reply bit and, without it, the code of the command. -/
theorem replyCode_bits (command : Command) :
    (command.code ||| Command.replyBit) &&& Command.replyBit ≠ 0 ∧
      (command.code ||| Command.replyBit) &&& ~~~Command.replyBit = command.code := by
  cases command <;> decide

/-- A request is not refused before its command is looked at. -/
theorem screen_request (command : Command) (sequence : UInt32) (payload : Bytes)
    (verdict : Option Bool) :
    Device.screen (.request command sequence payload) payload verdict = .ok command := by
  have hvouch : (Header.request command sequence payload).vouchesFor payload = true :=
    beq_self_eq_true _
  rw [Device.screen, Header.validate_request]
  simp only [hvouch, Bool.true_or, if_true]

theorem handleFrame_request (command : Command) (sequence : UInt32) (payload : Bytes)
    (verdict : Option Bool) (d : Device σ τ) :
    d.handleFrame (.request command sequence payload) payload verdict =
      ((Header.reply (.request command sequence payload) (d.handle command payload).1,
        (d.handle command payload).1), (d.handle command payload).2) := by
  rw [Device.handleFrame, Device.respond, screen_request]
  rfl

/-- The reply to a request is accepted. -/
theorem accept_reply (strict : Bool) (command : Command) (sequence : UInt32)
    (payload reply : Bytes) (verdict : Option Bool) :
    accept strict command sequence
        ⟨.reply (.request command sequence payload) reply, reply, verdict, 0⟩ =
      (.ok reply, none) := by
  obtain ⟨hbit, hcode⟩ := replyCode_bits command
  have hanswers : (Header.reply (.request command sequence payload) reply).answers command =
      true := by
    simp only [Header.answers, Header.isReply, Header.baseCommand, Header.reply, Header.request,
      Header.vouching, hcode, hbit, ne_eq, not_false_eq_true, decide_true, beq_self_eq_true,
      Bool.and_self]
  have hintact : Frame.isIntact
      ⟨.reply (.request command sequence payload) reply, reply, verdict, 0⟩ = true := by
    simp [Frame.isIntact, Header.vouchesFor, Header.reply, Header.vouching]
  have hsequence : (Header.reply (.request command sequence payload) reply).sequence = sequence :=
    rfl
  rw [accept]
  simp only [hanswers, hsequence, hintact, Bool.not_true, Bool.and_false, Bool.false_or, ne_eq,
    not_true_eq_false, decide_false, Bool.false_eq_true, if_false]

/-- A frame of the payload can be written, and is not too long to be read. -/
def Fits (c : Framing) (payload : Bytes) : Prop :=
  payload.length ≤ c.maxPayload ∧ payload.length < 4294967296

/-- The time at which an exchange is given up. -/
def Client.givesUpAt (extra : Nat) (k : Client (Loopback σ τ)) : Nat :=
  k.line.clock + millis (k.settings.timeout + extra)

/-- The time at which all of a request is written. -/
def Client.writtenAt (payload : Bytes) (k : Client (Loopback σ τ)) : Nat :=
  k.line.clock + millis (k.settings.framing.delay payload)

/-- An exchange is given up before the request is written, or before all of the reply of the
device has come. -/
def Overdue (c : Framing) (command : Command) (payload : Bytes) (extra : Nat)
    (k : Client (Loopback σ τ)) (d : Device σ τ) : Prop :=
  let r := d.handle command payload
  k.givesUpAt extra < k.writtenAt payload ∨
    k.givesUpAt extra < r.2.station.clock + millis (c.delay r.1)

section

variable {s : Settings} {k : Client (Loopback σ τ)} {extra : Nat} {command : Command}

theorem pauses_request (k : Client (Loopback σ τ)) (command : Command) (sequence : UInt32)
    (payload : Bytes) :
    k.line.clock + millis (pauses
        (k.settings.framing.bursts (.request command sequence payload) payload)) =
      k.writtenAt payload := by
  rw [Framing.pauses_bursts]
  rfl

/-- There is no reply to a request that is not written in time. -/
theorem exchange_of_unwritten (hr : k.line.outlet.room = none)
    (hw : k.givesUpAt extra < k.writtenAt payload) : ∃ k',
      k.exchange command payload extra = (.error (.noReply (k.settings.timeout + extra)), k') := by
  rw [← pauses_request k command (k.sequence + 1) payload] at hw
  obtain ⟨l, hsend⟩ := exists_send_late hr (Nat.le_add_right _ _) hw
  simp only [Client.exchange, hsend]
  exact ⟨_, rfl⟩

/-- An exchange returns the reply of the device, or is given up. -/
theorem Linked.exchange_or_overdue (hk : Linked s c k d) (ha : s.framing.trailing = c.trailing)
    (hf : Fits c payload)
    (hr : ∀ d', d.WaitsUntil (k.writtenAt payload) d' →
      Fits s.framing (d'.handle command payload).1) (extra : Nat) :
    ∃ d₁, d.WaitsUntil (k.writtenAt payload) d₁ ∧
      ((∃ d₂ k', k.exchange command payload extra = (.ok (d₁.handle command payload).1, k') ∧
          (d₁.handle command payload).2.Idles d₂ ∧ Linked s c k' d₂) ∨
        Overdue c command payload extra k d₁ ∧ ∃ k',
          k.exchange command payload extra = (.error (.noReply (s.timeout + extra)), k')) := by
  obtain ⟨rfl, joined, hinlet, hclock⟩ := hk
  obtain ⟨hf, hlen⟩ := hf
  by_cases hwritten : k.givesUpAt extra < k.writtenAt payload
  · exact ⟨d, .refl, .inr ⟨.inl hwritten, exchange_of_unwritten joined.room hwritten⟩⟩
  have hbytes := k.settings.framing.bytes_bursts (.request command (k.sequence + 1) payload) payload
  rw [Framing.frame_congr ha, ← List.nil_append (List.flatMap _ _)] at hbytes
  have hpos : 0 < (c.frame (.request command (k.sequence + 1) payload) payload).length := by
    rw [Framing.frame, List.length_append, List.length_append, Header.length_encode, Header.size]
    omega
  -- the request goes out
  obtain ⟨l, d₁, d₂, hsend, waits, idles', joined', htaken, hsaid, hlate⟩ :=
    @Joined.send_frame _ _ _ _ _ _ _ (k.givesUpAt extra) _ _ joined hclock hbytes hpos rfl
      (UInt32.toNat_ofNat_of_lt' hlen) hf (by
        rw [pauses_request]
        exact Nat.le_of_not_lt hwritten)
  rw [handleFrame_request] at idles' hsaid hlate
  rw [hinlet, List.nil_append] at hsaid
  dsimp only at idles' hsaid hlate
  rw [pauses_request] at waits htaken
  obtain ⟨hfits, hword⟩ := hr d₁ waits
  have hlength := UInt32.toNat_ofNat_of_lt' hword
  have hsequence : (Header.reply (.request command (k.sequence + 1) payload)
    (d₁.handle command payload).1).sequence = k.sequence + 1 := rfl
  rw [Client.givesUpAt] at hsend
  refine ⟨d₁, waits, ?_⟩
  by_cases hdue : k.givesUpAt extra < (d₁.handle command payload).2.station.clock +
      millis (c.delay (d₁.handle command payload).1)
  · -- the reply does not come in time
    obtain ⟨l', hreceive⟩ : ∃ l', l.receive k.settings.framing command (k.sequence + 1)
        (k.line.clock + millis (k.settings.timeout + extra)) = (.error .late, l') :=
      exists_receive_late ha hsaid rfl hlength hfits hdue command _
    refine .inr ⟨.inr hdue, ?_⟩
    simp only [Client.exchange, hsend, hreceive]
    exact ⟨_, rfl⟩
  · -- the reply comes in
    obtain ⟨clock, entries, hreceive, hle, hdone⟩ := @receive_of_reply _ _ _ _
      (k.line.clock + millis (k.settings.timeout + extra)) _ _ k.settings.framing ha _ hsaid
      rfl hlength hfits (Nat.le_of_not_lt hdue) command
    have haccept := accept_reply k.settings.strict command (k.sequence + 1) payload
      (d₁.handle command payload).1 (Segment.verdict k.settings.framing)
    rw [hsequence] at hreceive
    refine .inl ⟨d₂, ⟨k.settings, { l.report entries with inlet := [], clock := clock },
      k.sequence + 1⟩, ?_, idles', rfl, joined'.of_eq rfl rfl rfl, rfl, ?_⟩
    · simp only [Client.exchange, hsend, hreceive, haccept]
      rfl
    · dsimp only
      omega

end

/-- If there is time enough, an exchange returns the reply of the device. -/
theorem Linked.exchange {s : Settings} {k : Client (Loopback σ τ)} {wait size extra : Nat}
    {command : Command} (hk : Linked s c k d) (ha : s.framing.trailing = c.trailing)
    (hp : Prompt wait size command payload d) (hlen : payload.length < 4294967296)
    (hf : payload.length ≤ c.maxPayload) (hsize : size < 4294967296)
    (hf' : size ≤ s.framing.maxPayload)
    (ht : ∀ reply : Bytes, reply.length ≤ size →
      s.framing.delay payload + wait + c.delay reply ≤ s.timeout + extra) :
    ∃ d₁ d₂ k', k.exchange command payload extra = (.ok (d₁.handle command payload).1, k') ∧
      d.Idles d₁ ∧ (d₁.handle command payload).2.Idles d₂ ∧ Linked s c k' d₂ := by
  obtain ⟨d₁, waits, ⟨d₂, k', hexchange, idles', hk'⟩ | ⟨overdue, -⟩⟩ :=
    hk.exchange_or_overdue ha ⟨hf, hlen⟩ (fun d' waits => by
      obtain ⟨-, hshort⟩ := hp d' waits.idles
      exact ⟨Nat.le_trans hshort hf', Nat.lt_of_le_of_lt hshort hsize⟩) extra
  · exact ⟨d₁, d₂, k', hexchange, waits.idles, idles', hk'⟩
  · -- there is time for the request, the answer and the reply
    have hreached := waits.clock_le (Nat.le_add_right_of_le hk.clock)
    obtain ⟨hquick, hshort⟩ := hp d₁ waits.idles
    have htime := ht _ hshort
    simp only [Overdue, Client.givesUpAt, Client.writtenAt, hk.settings, millis]
      at overdue hquick hreached
    omega

end Host

end Coprocessor
