import Coprocessor.Pins.Bank
import Coprocessor.Proofs.Device.Effects
import Coprocessor.Proofs.Handoff.Schedule

/-!
# Consistency between requests

While a job is run the two threads take turns in any way (`Handoff.Station.RunsTo`). The
schedule of a station is one of these ways (`Handoff.Station.runsTo_run`).
`Device.Interleaved` are the devices that requests lead to if the worker acts in any way
during them and in between.

Between requests such a device is consistent (`Device.Interleaved.consistent`) : the
execution state that it has noted down tells whether code is sealed, the one that it
reports whether a job waits or runs, in the programming mode no job does, and what is
sealed is within the limits. Each effect of a request keeps this (`Device.Effect.lawful`),
and so does the worker, as it never makes a station busy that is not
(`Handoff.Station.Works.isBusy`).
-/

namespace Coprocessor

/-! ## Stations on any schedule -/

namespace Handoff.Station

variable {σ τ : Type} {s s' s'' : Station σ τ}

/-- What becomes of a station while it runs a job. The control thread submits the job, and
then collects an answer, or asks the worker to stop and collects a late answer, or gives up.
The worker acts in between. -/
inductive RunsTo (job : Job) (s : Station σ τ) : Station σ τ → Prop
  /-- There is an answer in time. -/
  | answered {remarks : List Remark} {s' : Station σ τ} (hw : (s.accepting job remarks).Works s')
      (hd : s'.slot.tag = .done) :
      RunsTo job s { s' with slot := s'.slot.collect.2 }
  /-- There is an answer within the grace period. -/
  | yielded {remarks : List Remark} {s' s'' : Station σ τ}
      (hw : (s.accepting job remarks).Works s') (hl : s'.cancel.Works s'')
      (hd : s''.slot.tag = .done) : RunsTo job s { s'' with slot := s''.slot.collect.2 }
  /-- There is no answer. -/
  | abandoned {remarks : List Remark} {s' s'' : Station σ τ}
      (hw : (s.accepting job remarks).Works s') (hl : s'.cancel.Works s'')
      (hd : s''.slot.tag ≠ .done) : RunsTo job s s''
  /-- Something happens afterwards. -/
  | after {s' s'' : Station σ τ} (h : RunsTo job s s') (hw : s'.Works s'') : RunsTo job s s''

/-- A station runs jobs on one of the schedules. -/
theorem runsTo_run (job : Job) (budget : Nat) (h : s.isBusy = false) :
    s.RunsTo job (s.run job budget).2 := by
  obtain ⟨remarks, hs⟩ := exists_submit_eq job h
  rw [run, hs]
  have hw : (s.accepting job remarks).Works ((s.accepting job remarks).acted budget) :=
    works_workUntil _ _
  generalize ha : (s.accepting job remarks).acted budget = s' at hw
  dsimp only
  by_cases hd : s'.slot.tag = .done
  · rw [wait_of_some (await_of_done ha hd)]
    exact (RunsTo.answered hw hd).after (Works.refl.elapse _ _ _ _ _)
  · obtain ⟨r, hwait⟩ := exists_wait_eq (await_of_ne_done ha hd)
    have hw' := hw.elapse ((s.accepting job remarks).clock + millis budget) s'.due s'.mailbox
      s'.pins s'.remarks
    rw [hwait]
    generalize { s' with clock := (s.accepting job remarks).clock + millis budget } = late at hw'
    have hl : late.cancel.Works (late.cancel.acted late.grace) := works_workUntil _ _
    generalize ha' : late.cancel.acted late.grace = s'' at hl
    by_cases hd' : s''.slot.tag = .done
    · rw [await_of_done ha' hd']
      exact (RunsTo.yielded hw' hl hd').after (Works.refl.elapse _ _ _ _ _)
    · rw [await_of_ne_done ha' hd']
      exact (RunsTo.abandoned hw' hl hd').after (Works.refl.elapse _ _ _ _ _)

end Handoff.Station

namespace Device

open Handoff

variable {σ τ : Type} {d d' : Device σ τ} {config : Config}

/-! ## Devices on any schedule -/

/-- A device with some settings, and with memory for any number of bytes, after requests in
between and during which the worker acts in any way. -/
inductive Interleaved (config : Config) : Device σ τ → Prop
  /-- The device was turned on. -/
  | start (board : Pins.Board σ) (waited : σ → Nat) (runner : Runner σ τ) (pins : σ) :
      Interleaved config (.start config board waited runner pins)
  /-- A request submits no job. -/
  | handle {d : Device σ τ} (h : Interleaved config d) {c : Command} {payload : Bytes}
      (hn : ∀ job, ¬d.Submits c payload job) : Interleaved config (d.handle c payload).2
  /-- A request submits a job, and the two threads take turns while it runs. -/
  | run {d : Device σ τ} {s : Station σ τ} (h : Interleaved config d) {c : Command}
      {payload : Bytes} {job : Job} (hs : d.Submits c payload job) (hr : d.station.RunsTo job s) :
      Interleaved config { (d.handle c payload).2 with station := s }
  /-- The worker acts between requests. -/
  | works {d : Device σ τ} {s : Station σ τ} (h : Interleaved config d) (hw : d.station.Works s) :
      Interleaved config { d with station := s }
  /-- Functions are added. -/
  | equip {d : Device σ τ} (h : Interleaved config d) (functions : FunctionTable σ) :
      Interleaved config { d with functions := functions }

/-- The device that handles a request on the schedule of its station is one of them. -/
theorem Interleaved.handle_station (h : Interleaved config d) (c : Command) (payload : Bytes) :
    Interleaved config (d.handle c payload).2 := by
  by_cases hs : ∃ job, d.Submits c payload job
  · obtain ⟨job, hs⟩ := hs
    obtain ⟨budget, ha⟩ := answer_of_submits hs
    have ran := h.run hs (Station.runsTo_run job budget hs.isBusy)
    have hh : (d.handle c payload).2 = (d.answer c payload).2 := rfl
    rw [hh, ha] at ran
    rw [hh, ha]
    exact ran
  · exact h.handle fun job hj => hs ⟨job, hj⟩

/-- So is the device that handles requests in a row. -/
theorem Interleaved.handleAll (h : Interleaved config d) (requests : List (Command × Bytes)) :
    Interleaved config (handleAll requests d).2 := by
  induction requests generalizing d with
  | nil => exact h
  | cons request requests ih => exact ih (h.handle_station request.1 request.2)

/-- A job may be given up on before the worker has even claimed it. -/
theorem Interleaved.abandon (h : Interleaved config d) {c : Command} {payload : Bytes} {job : Job}
    (hs : d.Submits c payload job) :
    Interleaved config { d with
      station := (d.station.accepting job []).cancel, execState := afterJob c d.execState } := by
  obtain ⟨budget, ha⟩ := answer_of_submits hs
  have ran := h.run hs (@Station.RunsTo.abandoned _ _ _ _ [] _ _ .refl .refl nofun)
  rw [Device.handle, ha] at ran
  exact ran

/-! ## What they keep -/

/-- What a device keeps whatever happens. -/
structure Lawful (config : Config) (d : Device σ τ) : Prop where
  /-- The settings and the buffers. -/
  stocked : d.Stocked config
  /-- There is memory. -/
  memory : ∀ n, d.memory n = true
  /-- The execution state that is noted down is that nothing is loaded where nothing is. -/
  idle : d.code.isSealed = false → d.execState = .idle
  /-- It is that something is loaded, or has run, where something is. -/
  loaded : d.code.isSealed = true → d.execState = .loaded ∨ d.execState = .done
  /-- In the programming mode no job waits or runs. -/
  programming : d.programming = true → d.station.isBusy = false

theorem lawful_start (config : Config) (board : Pins.Board σ) (waited : σ → Nat)
    (runner : Runner σ τ) (pins : σ) : (start config board waited runner pins).Lawful config where
  stocked := stocked_start config board waited runner pins
  memory _ := rfl
  idle _ := rfl
  loaded h := nomatch h
  programming h := nomatch h

/-- The station may become any other one that is not busy in the programming mode. -/
theorem Lawful.station (h : d.Lawful config) {s : Station σ τ}
    (hs : d.programming = true → s.isBusy = false) : Lawful config { d with station := s } where
  stocked := ⟨h.stocked.config_eq, h.stocked.code, h.stocked.script⟩
  memory := h.memory
  idle := h.idle
  loaded := h.loaded
  programming := hs

/-- The buffer for code may become another one if the execution state tells of it. -/
theorem Lawful.code (h : d.Lawful config) {u : Upload} {x : ExecState}
    (hu : u.Proper .code config.codeLimit) (hi : u.isSealed = false → x = .idle)
    (hl : u.isSealed = true → x = .loaded ∨ x = .done) :
    Lawful config { d with code := u, execState := x } where
  stocked := ⟨h.stocked.config_eq, hu, h.stocked.script⟩
  memory := h.memory
  idle := hi
  loaded := hl
  programming := h.programming

theorem Lawful.script (h : d.Lawful config) {u : Upload}
    (hu : u.Proper .script config.scriptLimit) : Lawful config { d with script := u } where
  stocked := ⟨h.stocked.config_eq, h.stocked.code, hu⟩
  memory := h.memory
  idle := h.idle
  loaded := h.loaded
  programming := h.programming

/-- An announcement of code ends what was sealed, unless it is refused. -/
theorem Lawful.announces (h : d.Lawful config) {total : UInt32} {answer : Except Status Unit}
    {u : Upload} (ha : d.code.announce d.memory total = (answer, u)) :
    Lawful config
      { d with code := u, execState := afterUpload .code answer.isOk .idle d.execState } := by
  have hu := h.stocked.code.announce d.memory total
  rw [ha] at hu
  unfold Upload.announce at ha
  rw [if_pos (h.memory total.toNat)] at ha
  split at ha
  case isTrue =>
    cases ha
    exact h.code hu (fun _ => rfl) nofun
  case isFalse =>
    cases ha
    exact h.code hu h.idle h.loaded

/-- A piece is only added where nothing is sealed. -/
theorem Lawful.appends (h : d.Lawful config) (piece : Bytes) :
    Lawful config { d with code := (d.code.append piece).2 } := by
  have hs : (d.code.append piece).2.isSealed = d.code.isSealed := by
    unfold Upload.append
    split
    case h_1 hs => simp [Upload.isSealed, Upload.content?, hs]
    case h_2 => rfl
  exact h.code (h.stocked.code.append piece) (hs ▸ h.idle) (hs ▸ h.loaded)

/-- Code that is found good is sealed. -/
theorem Lawful.verifies (h : d.Lawful config) {expected : UInt32}
    {answer : Except Status Upload.Verdict} {u : Upload}
    (hv : d.code.verify expected = (answer, u)) :
    Lawful config
      { d with code := u, execState := afterUpload .code (isGood answer) .loaded d.execState } := by
  have hu := h.stocked.code.verify expected
  rw [hv] at hu
  unfold Upload.verify at hv
  split at hv
  case h_1 announced held checksum hs =>
    cases hv
    have hopen : d.code.isSealed = false := by simp [Upload.isSealed, Upload.content?, hs]
    by_cases hok : (Upload.judge d.code.kind announced held checksum expected).status = .ok
    · simp only [hok, if_true, isGood, decide_true, afterUpload, and_self] at hu ⊢
      exact h.code hu (by simp [Upload.isSealed, Upload.content?]) fun _ => .inl rfl
    · simp only [hok, if_false, isGood, decide_false, afterUpload, Bool.false_eq_true, and_false]
        at hu ⊢
      exact h.code hu h.idle h.loaded
  case h_2 =>
    cases hv
    exact h.code hu h.idle h.loaded

/-- A job that calls code is only submitted where code is sealed. -/
theorem Lawful.submits (h : d.Lawful config) {c : Command} {payload : Bytes} {job : Job}
    (hs : d.Submits c payload job) :
    Lawful config { d with execState := afterJob c d.execState } := by
  cases hs with
  | code hp hr hc hb =>
    have hsealed : d.code.isSealed = true := by simp [Upload.isSealed, hc]
    exact h.code h.stocked.code (by simp [hsealed]) fun _ => .inr rfl
  | script hp hr hc hb => exact h

/-- Every effect of a request keeps it. -/
theorem Effect.lawful (he : Effect d d') (h : d.Lawful config) : d'.Lawful config := by
  cases he with
  | uses mailbox pins => exact h.station h.programming
  | cancels => exact h.station h.programming
  | @announces kind total answer u ha =>
    cases kind with
    | code => exact h.announces ha
    | script =>
      have hu := h.stocked.script.announce d.memory total
      rw [show d.script.announce d.memory total = (answer, u) from ha] at hu
      exact h.script hu
  | appends kind piece =>
    cases kind with
    | code => exact h.appends piece
    | script => exact h.script (h.stocked.script.append piece)
  | @verifies kind expected answer u hv =>
    cases kind with
    | code => exact h.verifies hv
    | script =>
      have hu := h.stocked.script.verify expected
      rw [show d.script.verify expected = (answer, u) from hv] at hu
      exact h.script hu
  | runs hs budget => exact (h.submits hs).station (fun hp => by simp [hs.programming] at hp)
  | clears hb =>
    exact ⟨⟨h.stocked.config_eq, h.stocked.code.free, h.stocked.script.free⟩, h.memory,
      fun _ => rfl, nofun, nofun⟩
  | programs hb =>
    exact ⟨⟨h.stocked.config_eq, h.stocked.code, h.stocked.script⟩, h.memory, h.idle, h.loaded,
      fun _ => hb⟩
  | leaves =>
    exact ⟨⟨h.stocked.config_eq, h.stocked.code, h.stocked.script⟩, h.memory, h.idle, h.loaded,
      nofun⟩

/-- Whatever the threads do between requests and during them, it is kept. -/
theorem Interleaved.lawful (h : Interleaved config d) : d.Lawful config := by
  induction h with
  | start board waited runner pins => exact lawful_start config board waited runner pins
  | handle h hn ih => exact (effect_answer _ _).lawful ih
  | run h hs hr ih =>
    obtain ⟨budget, ha⟩ := answer_of_submits hs
    rw [Device.handle, ha]
    exact (ih.submits hs).station fun hp => by simp [hs.programming] at hp
  | works h hw ih => exact ih.station fun hp => hw.isBusy (ih.programming hp)
  | equip h functions ih =>
    exact ⟨⟨ih.stocked.config_eq, ih.stocked.code, ih.stocked.script⟩, ih.memory, ih.idle,
      ih.loaded, ih.programming⟩

/-! ## What is seen of them -/

/-- A device with some settings is consistent between requests. -/
structure Consistent (config : Config) (d : Device σ τ) : Prop where
  /-- The execution state is noted down to be idle exactly when no code is sealed. -/
  idle : d.execState = .idle ↔ d.code.isSealed = false
  /-- It is noted down to be loaded or done exactly when code is sealed. -/
  loaded : d.execState = .loaded ∨ d.execState = .done ↔ d.code.isSealed = true
  /-- It is never noted down to be running. -/
  running : d.execState ≠ .running
  /-- The device replies that it is running exactly when a job waits or runs. -/
  status : ∀ payload, (d.handle .status payload).1 = (Reply.execState .running).payload ↔
    d.station.slot.tag = .ready ∨ d.station.slot.tag = .running
  /-- In the programming mode no job waits or runs. -/
  programming : d.programming = true → d.station.slot.tag ≠ .ready ∧ d.station.slot.tag ≠ .running
  /-- Code that is sealed has an even length within the limit. -/
  code : ∀ content, d.code.content? = some content →
    content.length % 2 = 0 ∧ content.length ≤ config.codeLimit
  /-- A script that is sealed is not empty, and its length is within the limit. -/
  script : ∀ content, d.script.content? = some content →
    content.length ≠ 0 ∧ content.length ≤ config.scriptLimit

theorem isBusy_eq_true_iff {t : Tag} : t.isBusy = true ↔ t = .ready ∨ t = .running := by
  cases t <;> simp [Tag.isBusy]

/-- Two execution states are told apart by the replies that carry them. -/
theorem payload_execState_inj {x y : ExecState}
    (h : (Reply.execState x).payload = (Reply.execState y).payload) : x = y := by
  have hfields := (List.append_cancel_left h : (Reply.execState x).fields = _)
  have hcode : x.code = y.code := Codec.u32_lossless.encode_inj.mp hfields
  have hfound := ExecState.ofCode?_code y
  rw [← hcode, ExecState.ofCode?_code x] at hfound
  exact Option.some.inj hfound

theorem reported_eq_running_iff (hx : d.execState ≠ .running) :
    d.reported = .running ↔ d.station.isBusy = true := by
  unfold reported
  split
  case isTrue hb => exact iff_of_true rfl hb
  case isFalse hb => exact iff_of_false hx hb

theorem consistent_of_lawful (h : d.Lawful config) : d.Consistent config := by
  have hidle : d.code.isSealed = false → d.execState = .idle := h.idle
  have hloaded : d.code.isSealed = true → d.execState = .loaded ∨ d.execState = .done := h.loaded
  have hrunning : d.execState ≠ .running := by
    cases hs : d.code.isSealed with
    | true => rcases hloaded hs with hx | hx <;> simp [hx]
    | false => simp [hidle hs]
  refine ⟨⟨fun hx => ?_, hidle⟩, ⟨fun hx => ?_, hloaded⟩, hrunning, fun payload => ?_, fun hp => ?_,
    fun content hc => ?_, fun content hc => ?_⟩
  · -- idle
    cases hs : d.code.isSealed with
    | true => simpa [hx] using hloaded hs
    | false => rfl
  · -- loaded
    cases hs : d.code.isSealed with
    | true => rfl
    | false => simp [hidle hs] at hx
  · -- status
    rw [← isBusy_eq_true_iff]
    refine Iff.trans ⟨payload_execState_inj, fun hr => ?_⟩ (reported_eq_running_iff hrunning)
    rw [← hr]
    rfl
  · -- programming
    have hb : ¬d.station.slot.tag.isBusy = true := Bool.eq_false_iff.mp (h.programming hp)
    exact not_or.mp (mt isBusy_eq_true_iff.mpr hb)
  · exact (h.stocked.code.seals hc).symm
  · exact (h.stocked.script.seals hc).symm

/-- Between requests every device is consistent, whatever requests there were and however the
worker acted. -/
theorem Interleaved.consistent (h : Interleaved config d) : d.Consistent config :=
  consistent_of_lawful h.lawful

/-- A device is consistent that was given code which never ends, was asked to run it, and has
given up on it before the worker has claimed the job. -/
theorem consistent_of_abandoned : ∃ d : Device Pins.Bank Emulation, Interleaved {} d ∧
    Consistent {} d ∧ d.code.content? = some [0xFE, 0xE7] ∧ d.execState = .done ∧
    d.station.slot.tag = .ready := by
  let d := start {} Pins.Bank.board (·.waited) (.emulator Emulation.usualBudget) {}
  have started : Interleaved {} d := .start _ _ _ _
  obtain ⟨x, replies, hall, -⟩ := @succeeds_code _ _ d 2 [[0xFE, 0xE7]]
    rfl rfl (by decide) rfl (by decide) (by decide)
  have uploaded := started.handleAll
    (uploadRequests .code 2 [[0xFE, 0xE7]] (Checksum.crc32 [[0xFE, 0xE7]].flatten))
  rw [hall] at uploaded
  have abandoned := @Interleaved.abandon _ _ _ _ uploaded .exec [0, 0, 0, 0]
    (.code [0xFE, 0xE7] (Arguments.padded _ [])) (.code rfl rfl rfl rfl)
  exact ⟨_, abandoned, abandoned.consistent, rfl, rfl, rfl⟩

end Device

end Coprocessor
