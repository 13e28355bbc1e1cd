import Coprocessor.Proofs.Handoff.Schedule

/-!
# What jobs cannot see

Two mailboxes are alike if they have the same text and the same size (`Mailbox.Alike`); what an
older text has left behind the NUL is nothing that a script can get at
(`Script.Run.alike_step`). Nor can a job tell what time it is, since it sees only the time
since it began. So two stations that differ in their clocks, in what is behind the text and in
their remarks do the same (`Station.Shifted.wait`). When a job is submitted the slot is filled
anew, whatever was left in it, and two idle stations whose mailboxes and pins are alike run
the job to the same answer (`Station.Level.run`).
-/

namespace Coprocessor

/-! ## Mailboxes -/

namespace Mailbox

/-- The same text in buffers of the same size. -/
structure Alike (m m' : Mailbox) : Prop where
  /-- The size. -/
  capacity : m'.capacity = m.capacity
  /-- The text. -/
  held : m'.held = m.held

variable {m m' : Mailbox}

theorem Alike.refl (m : Mailbox) : m.Alike m :=
  ⟨rfl, rfl⟩

theorem Alike.length (h : m.Alike m') : m'.length = m.length :=
  congrArg List.length h.held

theorem Alike.read (h : m.Alike m') (n : Nat) : m'.read n = m.read n := by
  rw [Mailbox.read, Mailbox.read, text, text, h.held]

theorem Alike.clear (h : m.Alike m') : m.clear.Alike m'.clear :=
  ⟨h.capacity, rfl⟩

theorem Alike.append (h : m.Alike m') (s : Bytes) : (m.append s).Alike (m'.append s) := by
  refine ⟨h.capacity, ?_⟩
  simp only [Mailbox.append, stored, h.capacity, h.held]

end Mailbox

/-! ## Scripts -/

namespace Script

variable {σ : Type}

/-- Machines that differ at most behind the texts in their mailboxes. -/
structure Machine.Alike (m m' : Machine σ) : Prop where
  /-- The registers. -/
  registers : m'.registers = m.registers
  /-- The mailbox. -/
  mailbox : m.mailbox.Alike m'.mailbox
  /-- The state of the board. -/
  pins : m'.pins = m.pins

/-- A statement does the same on machines that are alike, and goes on at the same place. -/
theorem Machine.Alike.execute {m m' : Machine σ} (h : m.Alike m') (board : Pins.Board σ)
    (i : Instruction) : (m'.execute board i).1 = (m.execute board i).1 ∧
      (m.execute board i).2.Alike (m'.execute board i).2 := by
  obtain ⟨_, mailbox, _⟩ := m
  obtain ⟨registers, mailbox', pins⟩ := m'
  obtain ⟨rfl, hmailbox, rfl⟩ := h
  cases i with
  | mailboxClear => exact ⟨rfl, rfl, hmailbox.clear, rfl⟩
  | mailboxAppend text => exact ⟨rfl, rfl, hmailbox.append text, rfl⟩
  | branch left comparison right target =>
    unfold Machine.execute
    dsimp only
    have heval : ∀ e, Machine.eval ⟨registers, mailbox', pins⟩ e =
        Machine.eval ⟨registers, mailbox, pins⟩ e := fun _ => rfl
    rw [heval, heval]
    split <;> exact ⟨rfl, rfl, hmailbox, rfl⟩
  | _ => exact ⟨rfl, rfl, hmailbox, rfl⟩

/-- Two runs after one statement, if they go on, or their outcomes. -/
inductive Run.Alike : (Outcome × Machine σ) ⊕ Run σ → (Outcome × Machine σ) ⊕ Run σ → Prop
  | ended (outcome : Outcome) {m m' : Machine σ} (h : m.Alike m') :
      Run.Alike (.inl (outcome, m)) (.inl (outcome, m'))
  | going {m m' : Machine σ} (h : m.Alike m') (counter steps : Nat) :
      Run.Alike (.inr ⟨m, counter, steps⟩) (.inr ⟨m', counter, steps⟩)

/-- Runs on machines that are alike go on alike. -/
theorem Run.alike_step {m m' : Machine σ} (h : m.Alike m') (board : Pins.Board σ)
    (code : Array Instruction) (limit : UInt32) (sample : Sample) (counter steps : Nat) :
    Run.Alike (Run.step board code limit sample ⟨m, counter, steps⟩)
      (Run.step board code limit sample ⟨m', counter, steps⟩) := by
  unfold Run.step
  dsimp only
  split
  case h_1 => exact .ended _ h
  case h_2 i _ =>
    split
    case isTrue => exact .ended _ h
    case isFalse =>
      split
      case isTrue => exact .ended _ h
      case isFalse =>
        obtain ⟨hflow, hm⟩ := h.execute board i
        rcases he : m.execute board i with ⟨flow, after⟩
        rcases he' : m'.execute board i with ⟨flow', after'⟩
        rw [he, he'] at hflow hm
        dsimp only at hflow
        subst hflow
        cases flow' with
        | ret value => exact .ended _ hm
        | jump target => exact .going hm _ _
        | next => exact .going hm _ _

end Script

namespace Handoff

variable {σ τ : Type} {k : Int}

/-! ## The worker -/

/-- The same job, begun at another time. -/
inductive Task.Shifted (k : Int) : Option (Task τ) → Option (Task τ) → Prop
  | none : Shifted k none none
  | code (state : τ) : Shifted k (some (.code state)) (some (.code state))
  | script (code : Array Script.Instruction) (limit : UInt32) (registers : Vector Int32 16)
      (counter steps : Nat) {began began' : Nat} (h : (began' : Int) = began + k) :
      Shifted k (some (.script code limit registers counter steps began))
        (some (.script code limit registers counter steps began'))

namespace Station

/-- One station is the other at another time, but for what is behind the text in its mailbox
and for its remarks. -/
structure Shifted (k : Int) (s s' : Station σ τ) : Prop where
  /-- Jobs are run with the same. -/
  facility : s'.facility = s.facility
  /-- The grace period. -/
  grace : s'.grace = s.grace
  /-- The slot. -/
  slot : s'.slot = s.slot
  /-- The job that the worker is at. -/
  task : Task.Shifted k s.task s'.task
  /-- The time of the control thread. -/
  clock : (s'.clock : Int) = s.clock + k
  /-- The time at which the worker acts next. -/
  due : (s'.due : Int) = s.due + k
  /-- The mailbox. -/
  mailbox : s.mailbox.Alike s'.mailbox
  /-- The state of the board. -/
  pins : s'.pins = s.pins

variable {s s' : Station σ τ}

namespace Shifted

theorem isBusy (h : Shifted k s s') : s'.isBusy = s.isBusy := by
  rw [Station.isBusy, Station.isBusy, h.slot]

theorem remark (h : Shifted k s s') (r r' : Remark) : Shifted k (s.remark r) (s'.remark r') :=
  ⟨h.facility, h.grace, h.slot, h.task, h.clock, h.due, h.mailbox, h.pins⟩

theorem cancel (h : Shifted k s s') : Shifted k s.cancel s'.cancel :=
  ⟨h.facility, h.grace, congrArg Slot.raise h.slot, h.task, h.clock, h.due, h.mailbox, h.pins⟩

/-- What may differ. -/
theorem exists_eq (h : Shifted k s s') : ∃ task clock due mailbox remarks,
    s' = { s with task, clock, due, mailbox, remarks } := by
  obtain ⟨hfacility, hgrace, hslot, -, -, -, -, hpins⟩ := h
  refine ⟨s'.task, s'.clock, s'.due, s'.mailbox, s'.remarks, ?_⟩
  rw [← hfacility, ← hgrace, ← hslot, ← hpins]

theorem uses (h : Shifted k s s') {m m' : Mailbox} (hm : m.Alike m') {p p' : σ} (hp : p' = p) :
    Shifted k { s with mailbox := m, pins := p } { s' with mailbox := m', pins := p' } :=
  ⟨h.facility, h.grace, h.slot, h.task, h.clock, h.due, hm, hp⟩

theorem deliver (h : Shifted k s s') (answer : Answer) :
    Shifted k (s.deliver answer) (s'.deliver answer) :=
  ⟨h.facility, h.grace, congrArg (Slot.deliver answer) h.slot, .none, h.clock, h.due, h.mailbox,
    h.pins⟩

theorem spend (h : Shifted k s s') (time : Nat) : Shifted k (s.spend time) (s'.spend time) := by
  refine ⟨h.facility, h.grace, h.slot, h.task, h.clock, ?_, h.mailbox, h.pins⟩
  have hdue := h.due
  simp only [Station.spend]
  omega

theorem conclude (h : Shifted k s s') (outcome : Script.Outcome) (statements : Nat) :
    Shifted k (s.conclude outcome statements) (s'.conclude outcome statements) := by
  unfold Station.conclude
  dsimp only
  split
  · exact (h.remark _ _).deliver _
  · exact ((h.remark _ _).remark _ _).deliver _

theorem takeUp (h : Shifted k s s') (job : Job) : Shifted k (s.takeUp job) (s'.takeUp job) := by
  obtain ⟨task', clock', due', mailbox', remarks', rfl⟩ := h.exists_eq
  cases job with
  | code content arguments =>
    unfold Station.takeUp
    dsimp only
    split
    · exact ⟨rfl, rfl, rfl, .code _, h.clock, h.due, h.mailbox, rfl⟩
    · exact h.deliver _
  | script content arguments limit =>
    unfold Station.takeUp
    dsimp only
    split
    · exact ⟨rfl, rfl, rfl, .script _ _ _ _ _ h.due, h.clock, h.due, h.mailbox, rfl⟩
    · exact (h.remark _ _).deliver _

/-- A script that was begun at another time sees the same before its next statement. -/
theorem stepTask (h : Shifted k s s') {task task' : Task τ}
    (ht : Task.Shifted k (some task) (some task')) :
    Shifted k (s.stepTask task) (s'.stepTask task') := by
  obtain ⟨_, clock', due', mailbox', remarks', rfl⟩ := h.exists_eq
  cases ht with
  | code state =>
    unfold Station.stepTask
    dsimp only
    split
    · exact h.deliver _
    · refine Shifted.spend ?_ _
      exact ⟨rfl, rfl, rfl, .code _, h.clock, h.due, h.mailbox, rfl⟩
  | @script code limit registers counter steps began began' hbegan =>
    have helapsed : due' - began' = s.due - began := by
      have hdue := h.due
      dsimp only at hdue
      omega
    have hmachine : Script.Machine.Alike ⟨registers, s.mailbox, s.pins⟩
        ⟨registers, mailbox', s.pins⟩ := ⟨rfl, h.mailbox, rfl⟩
    have hstep := Script.Run.alike_step hmachine s.facility.board code limit
      ⟨(s.due - began) / 1000, s.slot.cancelled⟩ counter steps
    unfold Station.stepTask
    dsimp only
    rw [helapsed]
    revert hstep
    generalize Script.Run.step s.facility.board code limit _
      ⟨⟨registers, s.mailbox, s.pins⟩, counter, steps⟩ = after
    generalize Script.Run.step s.facility.board code limit _
      ⟨⟨registers, mailbox', s.pins⟩, counter, steps⟩ = after'
    intro hstep
    cases hstep with
    | @ended outcome m m' hm =>
      refine Shifted.conclude ?_ outcome _
      exact ⟨rfl, rfl, rfl, h.task, h.clock, h.due, hm.mailbox, hm.pins⟩
    | @going m m' hm counter steps =>
      dsimp only
      rw [hm.registers, hm.pins]
      refine Shifted.spend ?_ _
      exact ⟨rfl, rfl, rfl, .script _ _ _ _ _ hbegan, h.clock, h.due, hm.mailbox, rfl⟩

theorem work (h : Shifted k s s') : Shifted k s.work s'.work := by
  have htask := h.task
  unfold Station.work
  cases ht : s.task with
  | some task =>
    cases ht' : s'.task with
    | some task' =>
      rw [ht, ht'] at htask
      exact h.stepTask htask
    | none =>
      rw [ht, ht'] at htask
      cases htask
  | none =>
    cases ht' : s'.task with
    | some task' =>
      rw [ht, ht'] at htask
      cases htask
    | none =>
      simp only [h.slot]
      split
      case h_1 => exact h
      case h_2 slot _ =>
        have hclaimed : Shifted k { s with slot := slot.takeJob.2 }
            { s' with slot := slot.takeJob.2 } :=
          ⟨h.facility, h.grace, rfl, h.task, h.clock, h.due, h.mailbox, h.pins⟩
        split
        · exact hclaimed.takeUp _
        · exact hclaimed.deliver _

theorem workUntil (h : Shifted k s s') {time time' : Nat} (ht : (time' : Int) = time + k)
    (fuel : Nat) : Shifted k (Station.workUntil time fuel s) (Station.workUntil time' fuel s') := by
  induction fuel generalizing s s' with
  | zero => exact h
  | succ fuel ih =>
    have hdue : (s'.due ≤ time') ↔ s.due ≤ time := by
      have := h.due
      omega
    simp only [Station.workUntil, h.isBusy, hdue]
    split
    · exact ih h.work
    · exact h

/-- The worker acts as often until some time as until the same time of the other station. -/
theorem acts (h : Shifted k s s') {time time' : Nat} (ht : (time' : Int) = time + k) :
    Shifted k (Station.workUntil time (s.turns time) s)
      (Station.workUntil time' (s'.turns time') s') := by
  have hfuel : s'.turns time' = s.turns time := by
    have hdue := h.due
    simp only [turns]
    omega
  rw [hfuel]
  exact h.workUntil ht _

theorem passTo (h : Shifted k s s') {time time' : Nat} (ht : (time' : Int) = time + k) :
    Shifted k (s.passTo time) (s'.passTo time') := by
  have hacts := h.acts ht
  refine ⟨hacts.facility, hacts.grace, hacts.slot, hacts.task, ?_, hacts.due, hacts.mailbox,
    hacts.pins⟩
  have hclock := h.clock
  simp only [Station.passTo]
  omega

/-! ## The control thread -/

theorem await (h : Shifted k s s') (budget : Nat) :
    (s'.await budget).1 = (s.await budget).1 ∧
      Shifted k (s.await budget).2 (s'.await budget).2 := by
  have hclock := h.clock
  have hdeadline : ((s'.clock + millis budget : Nat) : Int) =
      (s.clock + millis budget : Nat) + k := by omega
  have hacts := h.acts hdeadline
  by_cases hd : (s.acted budget).slot.tag = .done
  · have hd' : (s'.acted budget).slot.tag = .done := (congrArg Slot.tag hacts.slot).trans hd
    rw [await_of_done rfl hd, await_of_done rfl hd', acted, acted, hacts.slot]
    refine ⟨rfl, hacts.facility, hacts.grace, rfl, hacts.task, ?_, hacts.due, hacts.mailbox,
      hacts.pins⟩
    have hclock' := hacts.clock
    have hdue' := hacts.due
    dsimp only
    omega
  · have hd' : ¬(s'.acted budget).slot.tag = .done := fun h' =>
      hd ((congrArg Slot.tag hacts.slot).symm.trans h')
    rw [await_of_ne_done rfl hd, await_of_ne_done rfl hd']
    exact ⟨rfl, hacts.facility, hacts.grace, hacts.slot, hacts.task, hdeadline, hacts.due,
      hacts.mailbox, hacts.pins⟩

/-- A wait gives the same answer at another time. -/
theorem wait (h : Shifted k s s') (budget : Nat) :
    (s'.wait budget).1 = (s.wait budget).1 ∧ Shifted k (s.wait budget).2 (s'.wait budget).2 := by
  obtain ⟨hanswer, hafter⟩ := h.await budget
  rcases ha : s.await budget with ⟨answer, t⟩
  rcases ha' : s'.await budget with ⟨answer', t'⟩
  rw [ha, ha'] at hanswer hafter
  dsimp only at hanswer hafter
  subst hanswer
  cases answer' with
  | some answer =>
    rw [wait_of_some ha, wait_of_some ha']
    exact ⟨rfl, hafter⟩
  | none =>
    obtain ⟨r, hw⟩ := exists_wait_eq ha
    obtain ⟨r', hw'⟩ := exists_wait_eq ha'
    rw [hw, hw', hafter.grace]
    exact ⟨rfl, (hafter.cancel.await t.grace).2.remark r r'⟩

end Shifted

/-! ## Between requests -/

/-- Two stations whose mailboxes and pins are alike. If a job waits or runs, it is the same one,
and one station is the other at another time. -/
structure Level (s s' : Station σ τ) : Prop where
  /-- Jobs are run with the same. -/
  facility : s'.facility = s.facility
  /-- The grace period. -/
  grace : s'.grace = s.grace
  /-- The mailbox. -/
  mailbox : s.mailbox.Alike s'.mailbox
  /-- The state of the board. -/
  pins : s'.pins = s.pins
  /-- Whether a job waits or runs. -/
  isBusy : s'.isBusy = s.isBusy
  /-- The same job, at another time. -/
  shifted : s.isBusy = true → ∃ k, Shifted k s s'

theorem Shifted.level (h : Shifted k s s') : s.Level s' :=
  ⟨h.facility, h.grace, h.mailbox, h.pins, h.isBusy, fun _ => ⟨k, h⟩⟩

theorem Level.cancel (h : s.Level s') : s.cancel.Level s'.cancel :=
  ⟨h.facility, h.grace, h.mailbox, h.pins, h.isBusy, fun hb =>
    (h.shifted hb).imp fun _ hs => hs.cancel⟩

theorem Level.uses (h : s.Level s') {m m' : Mailbox} (hm : m.Alike m') {p p' : σ} (hp : p' = p) :
    { s with mailbox := m, pins := p }.Level { s' with mailbox := m', pins := p' } :=
  ⟨h.facility, h.grace, hm, hp, h.isBusy, fun hb => (h.shifted hb).imp fun _ hs => hs.uses hm hp⟩

/-- A station without a job that waits or runs is as it is at any later time. -/
theorem passTo_of_idle (hb : s.isBusy = false) (time : Nat) :
    s.passTo time = { s with clock := max time s.clock } := by
  rw [passTo, workUntil_of_idle hb]

theorem Level.of_idle (h : s.Level s') (hb : s.isBusy = false) (time time' : Nat) :
    (s.passTo time).Level (s'.passTo time') := by
  rw [passTo_of_idle hb, passTo_of_idle (h.isBusy.trans hb)]
  exact ⟨h.facility, h.grace, h.mailbox, h.pins, h.isBusy, fun hb' =>
    absurd hb' (Bool.eq_false_iff.mp hb)⟩

/-- The same pause leaves two stations level. -/
theorem Level.pause (h : s.Level s') (n : Nat) :
    (s.passTo (s.clock + n)).Level (s'.passTo (s'.clock + n)) := by
  cases hb : s.isBusy with
  | false => exact h.of_idle hb _ _
  | true =>
    obtain ⟨k, hs⟩ := h.shifted hb
    refine (hs.passTo ?_).level
    have hclock := hs.clock
    omega

/-- Where no job waits or runs, no task is left of the jobs before. -/
def Rested (s : Station σ τ) : Prop :=
  s.isBusy = false → s.task = none

/-- Whatever is left in the slot and whether or not the flag is up, stations without a job that
waits or runs give the same answer to a job. -/
theorem Level.run (h : s.Level s') (hr : s.Rested) (hr' : s'.Rested) (hb : s.isBusy = false)
    (job : Job) (budget : Nat) :
    (s'.run job budget).1 = (s.run job budget).1 ∧
      (s.run job budget).2.Level (s'.run job budget).2 := by
  obtain ⟨remarks, hs⟩ := exists_submit_eq job hb
  obtain ⟨remarks', hs'⟩ := exists_submit_eq job (h.isBusy.trans hb)
  have hoffered : Shifted (s'.clock - s.clock) (s.accepting job remarks)
      (s'.accepting job remarks') := by
    refine ⟨h.facility, h.grace, rfl, ?_, ?_, ?_, h.mailbox, h.pins⟩
    · rw [accepting, accepting, hr hb, hr' (h.isBusy.trans hb)]
      exact .none
    · simp only [accepting]
      omega
    · simp only [accepting, h.facility]
      omega
  obtain ⟨hanswer, hafter⟩ := hoffered.wait budget
  rw [Station.run, Station.run, hs, hs']
  exact ⟨hanswer, hafter.level⟩

end Station

end Handoff

end Coprocessor
