import Coprocessor.Proofs.Script.Statement
import Coprocessor.Proofs.Thumb.Recorded

/-!
# Interruption

A run of a script looks at a sample before each statement, and a call of code at the cancel flag
before each instruction. Both stop at the first look that tells them to, and only there : what is
being done when the flag goes up is done to its end.

With a record a run of a script finishes as it does without (`Run.snd_recorded`). A statement is
done at the runs that it comes to past samples that stop nothing, and at no others
(`Run.getElem?_acts_recorded`), so the statement at which the flag goes up is the last one, and the
machine is left as this statement leaves it (`Run.finish_of_stopped`). `stops_at_the_next_look` says
so for scripts and for code together. The samples are any function of the run, which counts its
statements, so they may be different at each look.
-/

namespace Coprocessor

open Moment (acts Heeds)

namespace Script

/-- Whether a sample stops a run with a time limit. -/
def Sample.stops (limit : UInt32) (s : Sample) : Bool :=
  s.isLate limit || s.cancelled

/-- How a run ends that a sample stops : the time is looked at first. -/
def Sample.ending (limit : UInt32) (s : Sample) : Ending :=
  if s.isLate limit then .timedOut else .cancelled

namespace Run

variable {σ : Type} {board : Pins.Board σ} {code : Array Instruction} {limit : UInt32}
  {watch : Run σ → Sample} {fuel n : Nat} {r r' next : Run σ} {i : Instruction}
  {outcome : Outcome} {m : Machine σ}

/-! ## Steps -/

/-- A step looks for a statement, then at the sample, and then does the statement. -/
theorem step_eq (board : Pins.Board σ) (code : Array Instruction) (limit : UInt32)
    (sample : Sample) (r : Run σ) :
    r.step board code limit sample = match code[r.counter]? with
      | none => .inl (⟨0, .fellOffEnd, r.steps⟩, r.machine)
      | some i =>
        if sample.stops limit then .inl (⟨0, sample.ending limit, r.steps⟩, r.machine)
        else r.perform board code.size i := by
  rw [step]
  cases code[r.counter]? with
  | none => rfl
  | some i =>
    rw [Sample.stops, Sample.ending]
    by_cases hl : sample.isLate limit = true
    · simp only [hl, Bool.true_or, if_true]
    · by_cases hc : sample.cancelled = true
      · simp only [hl, hc, Bool.or_true, if_true]
        rfl
      · simp only [hl, hc, Bool.or_self]
        rfl

theorem step_of_stops (hi : code[r.counter]? = some i) {sample : Sample}
    (h : sample.stops limit = true) :
    r.step board code limit sample = .inl (⟨0, sample.ending limit, r.steps⟩, r.machine) := by
  rw [step_eq, hi]
  exact if_pos h

theorem step_of_goes_on (hi : code[r.counter]? = some i) {sample : Sample}
    (h : sample.stops limit = false) :
    r.step board code limit sample = r.perform board code.size i := by
  rw [step_eq, hi]
  exact if_neg (Bool.eq_false_iff.mp h)

/-- A statement that a run does not go on from is a return, and it leaves the machine alone. -/
theorem perform_eq_inl (h : r.perform board n i = .inl (outcome, m)) :
    ∃ e, i = .ret e ∧ outcome = ⟨r.machine.eval e, .returned, r.steps + 1⟩ ∧
      m = (r.machine.execute board i).2 := by
  unfold perform at h
  split at h
  case h_1 value m' hx =>
    cases h
    cases i with
    | ret e =>
      cases hx
      exact ⟨e, rfl, rfl, rfl⟩
    | branch =>
      rw [Machine.execute] at hx
      split at hx <;> cases hx
    | _ => cases hx
  case h_2 | h_3 => cases h

/-- A statement that a run goes on from leaves the machine to what comes next. -/
theorem machine_of_perform (h : r.perform board n i = .inr next) :
    next.machine = (r.machine.execute board i).2 := by
  unfold perform at h
  split at h
  case h_1 => cases h
  case h_2 hx | h_3 hx =>
    cases h
    rw [hx]

/-! ## Runs with a record -/

/-- The record of a run with some fuel, and what the run finishes with. -/
def recorded (board : Pins.Board σ) (code : Array Instruction) (limit : UInt32)
    (watch : Run σ → Sample) : Nat → Run σ → List (Moment Sample (Run σ)) ×
      Option (Outcome × Machine σ)
  | 0, _ => ([], none)
  | fuel + 1, r =>
    match code[r.counter]? with
    | none => ([], some (⟨0, .fellOffEnd, r.steps⟩, r.machine))
    | some i =>
      let sample := watch r
      if sample.stops limit then
        ([.look sample], some (⟨0, sample.ending limit, r.steps⟩, r.machine))
      else match r.perform board code.size i with
        | .inl done => ([.look sample, .act r], some done)
        | .inr next =>
          let rest := recorded board code limit watch fuel next
          (.look sample :: .act r :: rest.1, rest.2)

theorem recorded_of_none (hi : code[r.counter]? = none) :
    recorded board code limit watch (fuel + 1) r =
      ([], some (⟨0, .fellOffEnd, r.steps⟩, r.machine)) := by
  rw [recorded, hi]

theorem recorded_of_stops (hi : code[r.counter]? = some i) (hs : (watch r).stops limit = true) :
    recorded board code limit watch (fuel + 1) r =
      ([.look (watch r)], some (⟨0, (watch r).ending limit, r.steps⟩, r.machine)) := by
  rw [recorded, hi]
  exact if_pos hs

theorem recorded_of_goes_on (hi : code[r.counter]? = some i)
    (hs : (watch r).stops limit = false) :
    recorded board code limit watch (fuel + 1) r = match r.perform board code.size i with
      | .inl done => ([.look (watch r), .act r], some done)
      | .inr next => (.look (watch r) :: .act r :: (recorded board code limit watch fuel next).1,
        (recorded board code limit watch fuel next).2) := by
  rw [recorded, hi]
  exact if_neg (Bool.eq_false_iff.mp hs)

/-- What is recorded does not change what comes of the run. -/
theorem snd_recorded : (recorded board code limit watch fuel r).2 =
    r.finish board code limit watch fuel := by
  induction fuel generalizing r with
  | zero => rfl
  | succ fuel ih =>
    rw [finish, step_eq]
    cases hi : code[r.counter]? with
    | none => rw [recorded_of_none hi]
    | some i =>
      cases hs : (watch r).stops limit with
      | true =>
        rw [recorded_of_stops hi hs]
        rfl
      | false =>
        rw [recorded_of_goes_on hi hs]
        simp only [Bool.false_eq_true, if_false]
        cases r.perform board code.size i with
        | inl done => rfl
        | inr next => exact ih

/-- A run goes no further than a look that stops it. -/
theorem heeds_recorded :
    Heeds (·.stops limit = true) (recorded board code limit watch fuel r).1 := by
  induction fuel generalizing r with
  | zero => exact Moment.heeds_nil
  | succ fuel ih =>
    cases hi : code[r.counter]? with
    | none =>
      rw [recorded_of_none hi]
      exact Moment.heeds_nil
    | some i =>
      cases hs : (watch r).stops limit with
      | true =>
        rw [recorded_of_stops hi hs]
        exact Moment.heeds_look _
      | false =>
        rw [recorded_of_goes_on hi hs]
        cases r.perform board code.size i with
        | inl done => exact Moment.heeds_nil.cons (Bool.eq_false_iff.mp hs)
        | inr next => exact ih.cons (Bool.eq_false_iff.mp hs)

/-- A run comes to another one after a number of statements. -/
inductive Reaches (board : Pins.Board σ) (code : Array Instruction) (limit : UInt32)
    (watch : Run σ → Sample) : Nat → Run σ → Run σ → Prop
  | refl (r : Run σ) : Reaches board code limit watch 0 r r
  | step {n : Nat} {r next r' : Run σ} (h : r.step board code limit (watch r) = .inr next)
    (hr : Reaches board code limit watch n next r') : Reaches board code limit watch (n + 1) r r'

theorem reaches_zero_iff : Reaches board code limit watch 0 r r' ↔ r = r' :=
  ⟨fun h => by cases h; rfl, fun h => h ▸ .refl r⟩

theorem reaches_succ_iff : Reaches board code limit watch (n + 1) r r' ↔
    ∃ next, r.step board code limit (watch r) = .inr next ∧
      Reaches board code limit watch n next r' :=
  ⟨fun h => by cases h with | step hs hr => exact ⟨_, hs, hr⟩, fun ⟨_, hs, hr⟩ => .step hs hr⟩

namespace Reaches

variable (h : Reaches board code limit watch n r r')

include h

theorem steps_eq : r'.steps = r.steps + n := by
  induction h with
  | refl => rfl
  | step hs _ ih =>
    rw [ih, (step_calm_of_next hs).2]
    omega

/-- A run finishes as a run does that it comes to. -/
theorem finish_add (fuel : Nat) : r.finish board code limit watch (fuel + n) =
    r'.finish board code limit watch fuel := by
  induction h with
  | refl => rfl
  | step hs _ ih =>
    rw [← Nat.add_assoc, finish, hs]
    exact ih

theorem finish_of_over {done : Outcome × Machine σ}
    (hs : r'.step board code limit (watch r') = .inl done) (hn : n < fuel) :
    r.finish board code limit watch fuel = some done := by
  obtain ⟨left, rfl⟩ : ∃ left, fuel = left + 1 + n := ⟨fuel - n - 1, by omega⟩
  rw [h.finish_add, finish, hs]

theorem snoc (hs : r'.step board code limit (watch r') = .inr next) :
    Reaches board code limit watch (n + 1) r next := by
  induction h with
  | refl => exact .step hs (.refl _)
  | step hfirst _ ih => exact .step hfirst (ih hs)

end Reaches

/-- Statement `n` of a run is done at the run that comes to it, if there is one and the sample does
not stop it. -/
theorem getElem?_acts_recorded :
    (acts (recorded board code limit watch fuel r).1)[n]? = some r' ↔
      n < fuel ∧ Reaches board code limit watch n r r' ∧ r'.counter < code.size ∧
        (watch r').stops limit = false := by
  induction fuel generalizing r n with
  | zero => simp [recorded, acts]
  | succ fuel ih =>
    cases hi : code[r.counter]? with
    | none =>
      have hlast : code.size ≤ r.counter := Array.getElem?_eq_none_iff.mp hi
      rw [recorded_of_none hi]
      refine iff_of_false (by simp [acts]) ?_
      rintro ⟨-, hreaches, hsome, -⟩
      cases hreaches with
      | refl => exact absurd hsome (Nat.not_lt.mpr hlast)
      | step hs => simp [step_eq, hi] at hs
    | some i =>
      have hlt : r.counter < code.size := (Array.getElem?_eq_some_iff.mp hi).1
      cases hs : (watch r).stops limit with
      | true =>
        rw [recorded_of_stops hi hs]
        refine iff_of_false (by simp [acts]) ?_
        rintro ⟨-, hreaches, -, hgoes⟩
        cases hreaches with
        | refl => exact Bool.false_ne_true (hgoes.symm.trans hs)
        | step hstep => simp [step_of_stops hi hs] at hstep
      | false =>
        rw [recorded_of_goes_on hi hs]
        cases n with
        | zero =>
          have hfirst : r = r' ↔ r = r' ∧ r'.counter < code.size ∧ (watch r').stops limit = false :=
            (and_iff_left_of_imp fun h => h ▸ ⟨hlt, hs⟩).symm
          simp only [reaches_zero_iff, Nat.succ_pos, true_and, ← hfirst]
          cases r.perform board code.size i <;> simp [acts]
        | succ n =>
          rw [reaches_succ_iff, step_of_goes_on hi hs, Nat.succ_lt_succ_iff]
          cases r.perform board code.size i with
          | inl done => simp [acts]
          | inr next => simpa [acts] using ih

/-! ## Interruption -/

/-- What comes of a run if a statement is done and nothing after it. -/
inductive Interrupted (board : Pins.Board σ) (code : Array Instruction) (limit : UInt32)
    (watch : Run σ → Sample) (r : Run σ) (i : Instruction) : Outcome → Prop
  /-- The statement returns a value. -/
  | returned {e : Operand} (hi : i = .ret e) :
    Interrupted board code limit watch r i ⟨r.machine.eval e, .returned, r.steps + 1⟩
  /-- There is no other statement. -/
  | fellOff {next : Run σ} (h : r.perform board code.size i = .inr next)
    (hn : code.size ≤ next.counter) :
    Interrupted board code limit watch r i ⟨0, .fellOffEnd, r.steps + 1⟩
  /-- The next look stops the run. -/
  | stopped {next : Run σ} (h : r.perform board code.size i = .inr next)
    (hn : next.counter < code.size) (hs : (watch next).stops limit = true) :
    Interrupted board code limit watch r i ⟨0, (watch next).ending limit, r.steps + 1⟩

theorem Interrupted.steps_eq (h : Interrupted board code limit watch r i outcome) :
    outcome.steps = r.steps + 1 := by
  cases h <;> rfl

/-- A run whose next look after a statement stops it, if there is one, ends with that statement. -/
theorem exists_interrupted (hreaches : Reaches board code limit watch n r r')
    (hi : code[r'.counter]? = some i) (hgoes : (watch r').stops limit = false)
    (hstops : ∀ next, r'.perform board code.size i = .inr next → (watch next).stops limit = true) :
    ∃ outcome, Interrupted board code limit watch r' i outcome ∧
      ∀ fuel, n + 1 < fuel → r.finish board code limit watch fuel =
        some (outcome, (r'.machine.execute board i).2) := by
  have hstep : r'.step board code limit (watch r') = _ := step_of_goes_on hi hgoes
  cases hp : r'.perform board code.size i with
  | inl done =>
    obtain ⟨outcome, m⟩ := done
    obtain ⟨e, hret, rfl, rfl⟩ := perform_eq_inl hp
    exact ⟨_, .returned hret, fun fuel hfuel =>
      hreaches.finish_of_over (hstep.trans hp) (Nat.lt_of_succ_lt hfuel)⟩
  | inr next =>
    have hnext := hreaches.snoc (hstep.trans hp)
    have hsteps := steps_of_perform_next hp
    rw [← machine_of_perform hp]
    cases hi' : code[next.counter]? with
    | none =>
      have hover : next.step board code limit (watch next) =
          .inl (⟨0, .fellOffEnd, r'.steps + 1⟩, next.machine) := by
        rw [step_eq, hi', hsteps]
      exact ⟨_, .fellOff hp (Array.getElem?_eq_none_iff.mp hi'), fun _ =>
        hnext.finish_of_over hover⟩
    | some i' =>
      have hover : next.step board code limit (watch next) =
          .inl (⟨0, (watch next).ending limit, r'.steps + 1⟩, next.machine) := by
        rw [step_of_stops hi' (hstops next hp), hsteps]
      exact ⟨_, .stopped hp (Array.getElem?_eq_some_iff.mp hi').1 (hstops next hp), fun _ =>
        hnext.finish_of_over hover⟩

/-- A run counts the statements that it does. -/
theorem steps_eq_length_acts (h : r.finish board code limit watch fuel = some (outcome, m)) :
    outcome.steps = r.steps + (acts (recorded board code limit watch fuel r).1).length := by
  rw [← snd_recorded] at h
  induction fuel generalizing r with
  | zero => cases h
  | succ fuel ih =>
    cases hi : code[r.counter]? with
    | none =>
      rw [recorded_of_none hi] at h ⊢
      cases h
      rfl
    | some i =>
      cases hs : (watch r).stops limit with
      | true =>
        rw [recorded_of_stops hi hs] at h ⊢
        cases h
        rfl
      | false =>
        rw [recorded_of_goes_on hi hs] at h ⊢
        cases hp : r.perform board code.size i with
        | inl done =>
          rw [hp] at h
          cases h
          exact steps_of_perform_over hp
        | inr next =>
          rw [hp] at h
          rw [ih h, steps_of_perform_next hp]
          simp only [acts, List.length_cons]
          omega

end Run

end Script

namespace Thumb.Core

variable {code : Bytes} {arguments : Vector Int32 Arguments.codeCount} {cancelled : Nat → Bool}
  {budget n : Nat} {c : Core}

/-- What a call comes to if an instruction is done and nothing after it. -/
def interrupted (code : Array UInt8) (budget n : Nat) (c : Core) : Except Status Int32 :=
  match c.step code with
  | .error halt => halt.answer
  | .ok _ => if n + 1 = budget then .error .execution else .error .timeout

/-- A call whose next look after an instruction shows the flag ends with that instruction. -/
theorem invoke_of_cancelled
    (h : (acts (recordedInvoke code arguments cancelled budget).1)[n]? = some c)
    (hc : cancelled (n + 1) = true) :
    (acts (recordedInvoke code arguments cancelled budget).1).length = n + 1 ∧
      invoke code arguments cancelled budget = interrupted code.toArray budget n c := by
  constructor
  · refine length_acts_eq h fun d hd => ?_
    obtain ⟨-, -, -, hlooks⟩ := getElem?_acts_recordedInvoke.mp hd
    exact Bool.false_ne_true ((hlooks (n + 1) (Nat.le_refl _)).symm.trans hc)
  · rw [invoke_of_acts h, interrupted]
    cases c.step code.toArray with
    | error halt => rfl
    | ok d =>
      obtain ⟨-, hn, -⟩ := getElem?_acts_recordedInvoke.mp h
      by_cases hlast : n + 1 = budget
      · simp only [hlast, Nat.sub_self, if_true]
        rfl
      · obtain ⟨left, hleft⟩ : ∃ left, budget - (n + 1) = left + 1 := ⟨budget - (n + 2), by omega⟩
        simp only [hleft, run, hc, hlast, if_true, if_false]

end Thumb.Core

open Script (Run Machine Sample)

/-- A run of a script and a call of code stop at the first look that tells them to, and there only.

Of a script, whatever its statements, its arguments, its limit and the board are, and whatever the
samples are : nothing comes after a look at a sample that shows the flag or that the time is over.
The statements are done at the runs that it comes to past other samples, and its outcome counts
them. If the look after a statement stops it, or there is no such look, then this statement is the
last one, the registers, the mailbox and the pins are as it leaves them, and the run ends by the
time or by the flag unless the statement returns a value or there is no other statement.

Of code, whatever its bytes, its arguments, its budget and the flag are : nothing comes after a look
that shows the flag. If the look after an instruction shows it, then this instruction is the last
one, and the answer is that of a call that is cancelled unless the core has halted with this
instruction or it is the last one of the budget. -/
theorem stops_at_the_next_look {σ : Type} (board : Pins.Board σ)
    (statements : Array Script.Instruction) (arguments : List Int32) (mailbox : Mailbox) (pins : σ)
    (limit : UInt32) (watch : Run σ → Sample) (code : Bytes)
    (inputs : Vector Int32 Arguments.codeCount) (cancelled : Nat → Bool) (budget : Nat) :
    let first := Run.start (Machine.load arguments mailbox pins)
    let finish := fun fuel => first.finish board statements limit watch fuel
    let recorded := fun fuel => Run.recorded board statements limit watch fuel first
    let call := Thumb.Core.recordedInvoke code inputs cancelled budget
    ((∀ fuel, (recorded fuel).2 = finish fuel ∧
        Heeds (fun sample => sample.stops limit = true) (recorded fuel).1 ∧
        (∀ n r, (acts (recorded fuel).1)[n]? = some r ↔
          n < fuel ∧ Run.Reaches board statements limit watch n first r ∧
            r.counter < statements.size ∧ (watch r).stops limit = false) ∧
        ∀ outcome m, finish fuel = some (outcome, m) →
          outcome.steps = (acts (recorded fuel).1).length) ∧
      ∀ fuel n r i, (acts (recorded fuel).1)[n]? = some r → statements[r.counter]? = some i →
        (∀ next, r.perform board statements.size i = .inr next →
          (watch next).stops limit = true) →
        ∃ outcome, Run.Interrupted board statements limit watch r i outcome ∧
          outcome.steps = n + 1 ∧ (acts (recorded (fuel + 1)).1).length = n + 1 ∧
          finish (fuel + 1) = some (outcome, (r.machine.execute board i).2)) ∧
    call.2 = Thumb.Core.invoke code inputs cancelled budget ∧
    Heeds (fun sample => sample = true) call.1 ∧
    (∀ n c, (acts call.1)[n]? = some c ↔ Thumb.Core.accepts code = true ∧ n < budget ∧
      Thumb.Core.after code.toArray n (.start inputs) = .ok c ∧ ∀ i ≤ n, cancelled i = false) ∧
    ∀ n c, (acts call.1)[n]? = some c → cancelled (n + 1) = true →
      (acts call.1).length = n + 1 ∧ Thumb.Core.invoke code inputs cancelled budget =
        Thumb.Core.interrupted code.toArray budget n c := by
  refine ⟨⟨fun fuel => ⟨Run.snd_recorded, Run.heeds_recorded,
    fun n r => Run.getElem?_acts_recorded, fun outcome m hfinish => ?_⟩,
    fun fuel n r i hact hi hstops => ?_⟩,
    Thumb.Core.snd_recordedInvoke, Thumb.Core.heeds_recordedInvoke,
    fun n c => Thumb.Core.getElem?_acts_recordedInvoke,
    fun n c hact hc => Thumb.Core.invoke_of_cancelled hact hc⟩
  · rw [Run.steps_eq_length_acts hfinish]
    exact Nat.zero_add _
  · obtain ⟨hn, hreaches, -, hgoes⟩ := Run.getElem?_acts_recorded.mp hact
    obtain ⟨outcome, hinterrupted, hfinish⟩ := Run.exists_interrupted hreaches hi hgoes hstops
    have hfinish := hfinish (fuel + 1) (Nat.succ_lt_succ hn)
    have hsteps : outcome.steps = n + 1 := by
      rw [hinterrupted.steps_eq, hreaches.steps_eq]
      exact congrArg (· + 1) (Nat.zero_add n)
    have hcount := Run.steps_eq_length_acts hfinish
    rw [hsteps, show (Run.start (Machine.load arguments mailbox pins)).steps = 0 from rfl,
      Nat.zero_add] at hcount
    exact ⟨outcome, hinterrupted, hsteps, hcount.symm, hfinish⟩

/-- A board that counts what is done to it raises the flag at the second write, so the third one is
not done; a loop of one instruction is left before its fourth turn. -/
theorem stops_at_the_next_look_of_second_write :
    let board : Pins.Board Nat := ⟨fun _ s => s + 1, fun _ s => (false, s), fun _ s => (0, s)⟩
    let write (pin : Int32) := Script.Instruction.digitalWrite (.constant pin) (.constant 1)
    let statements := #[write 5, write 6, write 7, .ret (.constant 3)]
    let watch := fun r : Run Nat => (⟨0, 2 ≤ r.machine.pins⟩ : Sample)
    let machine : Machine Nat := .load [] (.empty 16) 0
    let loop : Bytes := [0xFE, 0xE7]
    let inputs : Vector Int32 Arguments.codeCount := #v[0, 0, 0, 0, 0, 0, 0, 0]
    (Run.start machine).finish board statements 0 watch 3 =
      some (⟨0, .cancelled, 2⟩, { machine with pins := 2 }) ∧
    Thumb.Core.invoke loop inputs (fun k => 3 ≤ k) 10 = .error .timeout := by
  intro board write statements watch machine loop inputs
  obtain ⟨⟨-, hscript⟩, -, -, hacts, hcall⟩ :=
    stops_at_the_next_look board statements [] (.empty 16) 0 0 watch loop inputs
      (fun k => 3 ≤ k) 10
  constructor
  · obtain ⟨outcome, hinterrupted, -, -, hfinish⟩ :=
      hscript 2 1 ⟨{ machine with pins := 1 }, 1, 1⟩ (write 6) rfl rfl fun next hnext => by
        cases hnext
        rfl
    refine Eq.trans hfinish ?_
    cases hinterrupted with
    | returned hi => cases hi
    | fellOff h hn =>
      cases h
      exact absurd hn (by decide)
    | stopped h =>
      cases h
      rfl
  · obtain ⟨c, hc⟩ := Thumb.Core.exists_of_isOk
      (show (Thumb.Core.after loop.toArray 2 (.start inputs)).isOk = true by decide +kernel)
    obtain ⟨d, hd⟩ := Thumb.Core.exists_of_isOk
      (show (Thumb.Core.after loop.toArray 3 (.start inputs)).isOk = true by decide +kernel)
    rw [Thumb.Core.after_add_one hc] at hd
    have hact := (hacts 2 c).mpr ⟨by decide, by decide, hc, by decide⟩
    rw [(hcall 2 c hact (by decide)).2, Thumb.Core.interrupted, hd]
    rfl

end Coprocessor
