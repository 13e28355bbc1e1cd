import Coprocessor.Proofs.Device.Consistency
import Coprocessor.Proofs.Device.Twins

/-!
# The programming mode

In the programming mode nothing is loaded or run. No job waits or runs either, since the mode
cannot be entered while one does, and the worker has no task left of the jobs before
(`Device.Operated.isBusy`, `Device.Operated.rested`), on any schedule of the two threads. So as
long as the mode is on, all that changes is the cancel flag and the clock, whatever requests come
in and however often the worker acts (`Device.Operated.stays`). Uploads, runs and calls are
refused before their payload is looked at. When the mode is left, the device is the twin of what
it was when it was entered.
-/

namespace Coprocessor

/-! ## Stations at rest -/

namespace Handoff.Station

variable {σ τ : Type} {s s' : Station σ τ}

theorem Progress.rested (h : Progress s s') (hb : s.isBusy = true) : s'.Rested := by
  intro hb'
  cases h with
  | going task hs ht =>
    rw [isBusy, hs] at hb'
    exact absurd hb (Bool.eq_false_iff.mp hb')
  | ended answer hs ht => exact ht

/-- The worker that acts leaves no task behind when it delivers an answer. -/
theorem Rested.work (h : s.Rested) : s.work.Rested := by
  cases ht : s.task with
  | some task =>
    have hb : s.isBusy = true := by
      refine Decidable.byContradiction fun hb => ?_
      have hnone := h (Bool.eq_false_iff.mpr hb)
      rw [ht] at hnone
      cases hnone
    rw [work_of_task ht]
    exact (progress_stepTask s task).rested hb
  | none =>
    cases hc : s.slot.claim? with
    | none =>
      rw [work_of_none ht hc]
      exact h
    | some slot =>
      have hrunning : slot.tag = .running := by
        unfold Slot.claim? at hc
        split at hc
        · cases hc
          rfl
        · cases hc
      cases hj : slot.job with
      | some job =>
        rw [work_of_claim ht hc hj]
        refine (progress_takeUp _ job).rested ?_
        rw [isBusy, Slot.takeJob, hrunning]
        rfl
      | none =>
        rw [work_of_miss ht hc hj]
        exact fun _ => rfl

theorem Works.rested (hw : s.Works s') (h : s.Rested) : s'.Rested := by
  induction hw with
  | refl => exact h
  | work _ ih => exact ih.work
  | elapse _ _ _ _ _ _ ih => exact ih

theorem rested_accepting (job : Job) (remarks : List Remark) : (s.accepting job remarks).Rested :=
  nofun

/-- A result that is collected was delivered by a worker at rest. -/
theorem Rested.collect (h : s.Rested) (hd : s.slot.tag = .done) :
    Rested { s with slot := s.slot.collect.2 } :=
  fun _ => h (by rw [isBusy, hd]; rfl)

/-- However the threads take turns while a job is run, a station at rest results. -/
theorem RunsTo.rested {job : Job} (h : s.RunsTo job s') : s'.Rested := by
  induction h with
  | answered hw hd => exact (hw.rested (rested_accepting _ _)).collect hd
  | yielded hw hl hd =>
    have asked : Rested (Station.cancel _) := hw.rested (rested_accepting _ _)
    exact (hl.rested asked).collect hd
  | abandoned hw hl hd =>
    have asked : Rested (Station.cancel _) := hw.rested (rested_accepting _ _)
    exact hl.rested asked
  | after h hw ih => exact hw.rested ih

/-- The worker of a station at rest without a job has nothing to do. -/
theorem Rested.work_eq (h : s.Rested) (hb : s.isBusy = false) : s.work = s := by
  refine work_of_none (h hb) (if_neg fun hr => ?_)
  rw [isBusy, hr] at hb
  cases hb

end Handoff.Station

namespace Device

open Handoff

variable {σ τ : Type} {d d' : Device σ τ}

/-! ## Devices in use -/

/-- A device that requests lead to if the worker acts in any way during them and in between,
time passes, and others use the mailbox and the pins, add functions or take memory. -/
inductive Operated : Device σ τ → Prop
  /-- The device was turned on. -/
  | start (config : Config) (board : Pins.Board σ) (waited : σ → Nat) (runner : Runner σ τ)
      (pins : σ) : Operated (.start config board waited runner pins)
  /-- It handles a request on the schedule of its station. -/
  | handle {d : Device σ τ} (h : Operated d) (c : Command) (payload : Bytes) :
      Operated (d.handle c payload).2
  /-- It handles a request that submits a job, and the threads take turns in any way. -/
  | run {d : Device σ τ} {s : Station σ τ} (h : Operated d) {c : Command} {payload : Bytes}
      {job : Job} (hs : d.Submits c payload job) (hr : d.station.RunsTo job s) :
      Operated { (d.handle c payload).2 with station := s }
  /-- The worker acts between requests, or others use the mailbox and the pins. -/
  | works {d : Device σ τ} {s : Station σ τ} (h : Operated d) (hw : d.station.Works s) :
      Operated { d with station := s }
  /-- There are other functions, or there is other memory. -/
  | equip {d : Device σ τ} (h : Operated d) (functions : FunctionTable σ)
      (memory : Nat → Bool) : Operated { d with functions := functions, memory := memory }

theorem Operated.handleAll (h : d.Operated) (requests : List (Command × Bytes)) :
    (handleAll requests d).2.Operated := by
  induction requests generalizing d with
  | nil => exact h
  | cons request requests ih => exact ih (h.handle request.1 request.2)

theorem Effect.rested (he : Effect d d') (h : d.station.Rested) : d'.station.Rested := by
  cases he with
  | uses | cancels | clears | programs | leaves => exact h
  | announces kind | appends kind | verifies kind => cases kind <;> exact h
  | runs hs budget => exact (Station.runsTo_run _ budget hs.isBusy).rested

/-- Where no job waits or runs, no task is left of the jobs before. -/
theorem Operated.rested (h : d.Operated) : d.station.Rested := by
  induction h with
  | start => exact fun _ => rfl
  | handle h c payload ih => exact (effect_answer c payload).rested ih
  | run h hs hr ih => exact hr.rested
  | works h hw ih => exact hw.rested ih
  | equip h functions memory ih => exact ih

theorem Effect.isBusy (he : Effect d d') (h : d.programming = true → d.station.isBusy = false)
    (hp : d'.programming = true) : d'.station.isBusy = false := by
  cases he with
  | uses | cancels => exact h hp
  | announces kind | appends kind | verifies kind => cases kind <;> exact h hp
  | runs hs budget => exact absurd hp (Bool.eq_false_iff.mp hs.programming)
  | clears | leaves => cases hp
  | programs hb => exact hb

/-- In the programming mode no job waits or runs. -/
theorem Operated.isBusy (h : d.Operated) (hp : d.programming = true) :
    d.station.isBusy = false := by
  induction h with
  | start => cases hp
  | handle h c payload ih => exact (effect_answer c payload).isBusy ih hp
  | @run d s h c payload job hs hr ih =>
    obtain ⟨budget, ha⟩ := answer_of_submits hs
    have hsame : (d.answer c payload).2.programming = d.programming := by rw [ha]
    rw [Device.handle] at hp
    exact absurd (hsame.symm.trans hp) (Bool.eq_false_iff.mp hs.programming)
  | works h hw ih => exact hw.isBusy (ih hp)
  | equip h functions memory ih => exact ih hp

/-! ## While the mode is on -/

/-- Commands that are refused in the programming mode : to upload, to run and to call. -/
def isBarred : Command → Bool
  | .loadBegin | .loadData | .loadEnd | .scriptBegin | .scriptData | .scriptEnd | .exec
  | .scriptExec | .func => true
  | _ => false

/-- The device with another cancel flag at another time. -/
def timed (cancelled : Bool) (clock : Nat) (d : Device σ τ) : Device σ τ :=
  { d with station := { d.station with
      slot := { d.station.slot with cancelled := cancelled }, clock := clock } }

/-- What may happen to a device that is not to leave the programming mode : it handles requests,
the newest of which comes first with its reply, the worker acts, and time passes. -/
inductive Stays (d : Device σ τ) : List (Command × Bytes) → Device σ τ → Prop
  /-- Nothing has happened yet. -/
  | start : Stays d [] d
  /-- The device handles a request. -/
  | handle {said : List (Command × Bytes)} {d' : Device σ τ} (h : Stays d said d') {c : Command}
      (hr : c ≠ .reset) (hl : c ≠ .ispExit) (payload : Bytes) :
      Stays d ((c, (d'.handle c payload).1) :: said) (d'.handle c payload).2
  /-- The worker acts. -/
  | work {said : List (Command × Bytes)} {d' : Device σ τ} (h : Stays d said d') :
      Stays d said { d' with station := d'.station.work }
  /-- Time passes. -/
  | pass {said : List (Command × Bytes)} {d' : Device σ τ} (h : Stays d said d') (time : Nat) :
      Stays d said { d' with station := d'.station.passTo time }

/-- Uploads, runs and calls are refused before their payload is looked at. -/
theorem answer_of_barred {c : Command} (hp : d.programming = true) (hc : isBarred c = true)
    (payload : Bytes) : d.answer c payload = (.error .state, d) := by
  cases c with
  | loadBegin | scriptBegin => exact if_pos hp
  | loadData | scriptData => exact if_pos hp
  | loadEnd | scriptEnd => exact if_pos hp
  | exec => exact if_pos hp
  | scriptExec => exact if_pos hp
  | func => exact if_pos hp
  | hello | info | status | mailboxRead | cancel | reset | ispEnter | ispExit => cases hc

theorem eq_of_programming {b : Bool} (h : d.programming = b) : { d with programming := b } = d := by
  rw [← h]

/-- A request in the programming mode makes nothing different but the cancel flag. -/
theorem exists_timed_answer {c : Command} (hp : d.programming = true)
    (hb : d.station.isBusy = false) (hr : c ≠ .reset) (hl : c ≠ .ispExit) (payload : Bytes) :
    ∃ cancelled, (d.answer c payload).2 = d.timed cancelled d.station.clock := by
  by_cases hc : isBarred c = true
  · rw [answer_of_barred hp hc]
    exact ⟨d.station.slot.cancelled, rfl⟩
  cases c with
  | loadBegin | loadData | loadEnd | scriptBegin | scriptData | scriptEnd | exec | scriptExec
  | func => exact absurd rfl hc
  | reset => exact absurd rfl hr
  | ispExit => exact absurd rfl hl
  | hello | info | status | mailboxRead => exact ⟨d.station.slot.cancelled, rfl⟩
  | cancel => exact ⟨true, rfl⟩
  | ispEnter =>
    have hentered : d.answer .ispEnter payload = (.ok .done, { d with programming := true }) := by
      rw [answer, enterProgramming, hb]
      rfl
    rw [hentered, eq_of_programming hp]
    exact ⟨d.station.slot.cancelled, rfl⟩

/-- What is true of a device in the programming mode after some requests. -/
structure Barred (d : Device σ τ) (said : List (Command × Bytes)) (d' : Device σ τ) : Prop where
  /-- Uploads, runs and calls were refused for the state, with the result zero if there is one. -/
  refuses : ∀ c reply, (c, reply) ∈ said → isBarred c = true →
    reply = Reply.refusal c .state
  /-- No job waits or runs. -/
  isBusy : d'.station.isBusy = false
  /-- The worker has no task. -/
  task : d'.station.task = none
  /-- Nothing is different but the cancel flag and the clock. -/
  eq : ∃ cancelled clock, d' = d.timed cancelled clock
  /-- When the mode is left, the device is what it was when the mode was entered, but for the
  cancel flag and the clock, which later requests do not tell. -/
  resumes : ∀ (before : Device σ τ) payload, d = (before.handle .ispEnter payload).2 →
    before.programming = false → ∀ payload', let left := d'.handle .ispExit payload'
      IsOk left.1 ∧ (∃ cancelled clock, left.2 = before.timed cancelled clock) ∧
        before.Twins left.2

variable {said : List (Command × Bytes)}

/-- Replies and device after anything that may happen while the mode is on. -/
theorem Stays.eq_timed (h : d.Stays said d') (hp : d.programming = true)
    (hb : d.station.isBusy = false) (hr : d.station.Rested) :
    (∀ c reply, (c, reply) ∈ said → isBarred c = true → reply = Reply.refusal c .state) ∧
      ∃ cancelled clock, d' = d.timed cancelled clock := by
  induction h with
  | start => exact ⟨nofun, d.station.slot.cancelled, d.station.clock, rfl⟩
  | @handle said d' h c hreset hexit payload ih =>
    obtain ⟨hall, flag, clock, rfl⟩ := ih
    obtain ⟨flag', hanswer⟩ := exists_timed_answer (d := d.timed flag clock) hp hb hreset hexit
      payload
    refine ⟨?_, flag', clock, hanswer⟩
    intro c' reply hmem hc
    rcases List.mem_cons.mp hmem with heq | hmem
    · obtain ⟨rfl, rfl⟩ := Prod.mk.inj heq
      rw [Device.handle, answer_of_barred (d := d.timed flag clock) hp hc]
      rfl
    · exact hall c' reply hmem hc
  | work h ih =>
    obtain ⟨hall, flag, clock, rfl⟩ := ih
    have hwork : (d.timed flag clock).station.work = (d.timed flag clock).station :=
      Station.Rested.work_eq hr hb
    rw [hwork]
    exact ⟨hall, flag, clock, rfl⟩
  | pass h time ih =>
    obtain ⟨hall, flag, clock, rfl⟩ := ih
    have hpass := Station.passTo_of_idle (s := (d.timed flag clock).station) hb time
    rw [hpass]
    exact ⟨hall, flag, max time clock, rfl⟩

/-- A device without a job is the twin of what it is with another flag at another time. -/
theorem twins_timed (hb : d.station.isBusy = false) (cancelled : Bool) (clock : Nat) :
    d.Twins (d.timed cancelled clock) :=
  ⟨⟨rfl, rfl, .refl _, rfl, rfl, fun hb' => absurd hb' (Bool.eq_false_iff.mp hb)⟩, rfl⟩

/-- Whatever happened to a device before, and whatever requests come in while it is in the
programming mode : nothing is loaded or run, and the device goes on where it stopped. -/
theorem Operated.stays (h : d.Operated) (hp : d.programming = true) (hs : d.Stays said d') :
    d.Barred said d' := by
  have hb := h.isBusy hp
  obtain ⟨hall, flag, clock, rfl⟩ := hs.eq_timed hp hb h.rested
  refine ⟨hall, hb, h.rested hb, ⟨flag, clock, rfl⟩, ?_⟩
  intro before payload hd hbefore payload'
  have hidle : before.station.isBusy = false := by
    refine Bool.eq_false_iff.mpr fun hbusy => ?_
    rw [hd, Device.handle, answer, enterProgramming, if_pos hbusy] at hp
    exact absurd hp (Bool.eq_false_iff.mp hbefore)
  have hentered : d = { before with programming := true } := by
    rw [hd, Device.handle, answer, enterProgramming, hidle]
    rfl
  have hleft : ((d.timed flag clock).handle .ispExit payload').2 = before.timed flag clock := by
    rw [hentered]
    exact eq_of_programming (d := before.timed flag clock) hbefore
  refine ⟨⟨[], rfl⟩, ⟨flag, clock, hleft⟩, ?_⟩
  rw [hleft]
  exact twins_timed hidle flag clock

/-- A device that has run its code is entered into the programming mode. A call with a malformed
payload is refused, the flag is raised, the worker looks for a job, and time passes. -/
theorem stays_of_done : ∃ (before d' : Device Pins.Bank Emulation) (said : List (Command × Bytes)),
    before.code.content? = some [0x2A, 0x20, 0x70, 0x47] ∧ before.reported = .done ∧
    said.map Prod.fst = [.cancel, .func] ∧ d'.station.slot.cancelled = true ∧
    (before.handle .ispEnter []).2.Barred said d' := by
  let content : Bytes := [0x2A, 0x20, 0x70, 0x47]
  let fresh := start {} Pins.Bank.board (·.waited) (.emulator 100) {}
  let requests := uploadRequests .code 4 [content] (Checksum.crc32 content) ++
    [(.exec, Codec.u32.encode 0)]
  let before := (handleAll requests fresh).2
  have used : Operated before := Operated.handleAll (.start {} _ _ _ _) requests
  have called : (before.handle .ispEnter []).2.Stays _ _ :=
    Stays.start.handle (c := .func) nofun nofun [7]
  have stayed := (called.work.handle (c := .cancel) nofun nofun []).pass 5000
  exact ⟨before, _, _, by decide +kernel, by decide +kernel, rfl, by decide +kernel,
    (used.handle .ispEnter []).stays (by decide +kernel) stayed⟩

end Device

end Coprocessor
