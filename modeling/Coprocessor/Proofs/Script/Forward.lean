import Coprocessor.Pins.Bank
import Coprocessor.Proofs.Handoff.Interruption
import Coprocessor.Proofs.Script.Listing
import Coprocessor.Proofs.Script.Operands
import Mathlib.Data.List.Perm.Subperm

/-!
# Scripts without a way back

Only a jump can make the number of the next statement go down. If every label that a statement
names is bound to a later one, or to none, then this number goes up with every statement that is
done (`Run.counter_lt_of_perform`). So a run ends within as many statements as the program has,
whatever the board tells and whatever the jumps depend on, and no statement is done twice
(`Run.ascending_counters`). Nothing but the script stops it unless it is late or cancelled.
-/

namespace Coprocessor.Script

open Moment (acts)

/-- Where a statement may jump to there is a later one, or none. -/
def GoesForward (code : Array Instruction) : Prop :=
  ∀ c i, code[c]? = some i → ∀ t, i.destination? = some t → t < code.size → c < t

/-- The label that a statement names, if it does, is not bound, or bound past the last statement,
or bound to a later statement. -/
def Program.IsForward (p : Program) : Prop :=
  ∀ c, ∀ h : c < p.statements.size, ∀ l ∈ Instruction.labelOperand? p.statements[c].text,
    ∀ t ∈ p.resolve l, p.statements.size ≤ t ∨ c < t

instance (p : Program) : Decidable p.IsForward :=
  inferInstanceAs (Decidable (∀ c, ∀ h : c < p.statements.size,
    ∀ l ∈ Instruction.labelOperand? p.statements[c].text,
      ∀ t ∈ p.resolve l, p.statements.size ≤ t ∨ c < t))

theorem Program.IsForward.goesForward {p : Program} (h : p.IsForward) :
    GoesForward p.instructions := by
  intro c i hi t ht hlt
  rw [Program.instructions, Array.getElem?_map] at hi
  obtain ⟨s, hs, rfl⟩ := Option.map_eq_some_iff.mp hi
  obtain ⟨hc, rfl⟩ := Array.getElem?_eq_some_iff.mp hs
  obtain ⟨l, hl, hresolve⟩ := Instruction.exists_labelOperand ht
  rw [Program.instructions, Array.size_map] at hlt
  exact (h c hc l hl t hresolve).resolve_left (Nat.not_le_of_lt hlt)

variable {σ : Type} {board : Pins.Board σ} {code : Array Instruction} {limit : UInt32}
  {watch : Run σ → Sample} {fuel fuel' : Nat} {i : Instruction} {outcome : Outcome} {m : Machine σ}

/-- A statement jumps to its destination only. -/
theorem destination?_of_execute {t : Nat} (h : (m.execute board i).1 = .jump (some t)) :
    i.destination? = some t := by
  cases i with
  | jump target => exact Flow.jump.inj h
  | branch left comparison right target =>
    rw [Machine.execute] at h
    split at h
    case isTrue => exact Flow.jump.inj h
    case isFalse => cases h
  | _ => cases h

namespace Run

variable {r next : Run σ}

/-! ## Steps -/

/-- What a run goes on at is one of the statements, or the end. -/
theorem follow_le {count c : Nat} (hc : c < count) (target : Option Nat) :
    follow count c target ≤ count := by
  unfold follow
  split
  · split
    · exact Nat.le_of_lt ‹_›
    · exact hc
  · exact hc

theorem lt_follow {count c : Nat} {target : Option Nat}
    (h : ∀ t, target = some t → t < count → c < t) : c < follow count c target := by
  unfold follow
  split
  case h_1 t =>
    split
    case isTrue ht => exact h t rfl ht
    case isFalse => exact Nat.lt_succ_self c
  case h_2 => exact Nat.lt_succ_self c

/-- A statement that a run goes on from is before the next one. -/
theorem counter_lt_of_perform (hf : GoesForward code) (hi : code[r.counter]? = some i)
    (h : r.perform board code.size i = .inr next) :
    r.counter < next.counter ∧ next.counter ≤ code.size := by
  have hc : r.counter < code.size := (Array.getElem?_eq_some_iff.mp hi).1
  unfold perform at h
  split at h
  case h_1 => cases h
  case h_2 target m hx =>
    cases h
    refine ⟨lt_follow fun t ht => ?_, follow_le hc target⟩
    refine hf r.counter i hi t (@destination?_of_execute _ board _ r.machine t ?_)
    rw [hx, ht]
  case h_3 =>
    cases h
    exact ⟨Nat.lt_succ_self _, hc⟩

/-! ## Runs -/

/-- More fuel does not change what a run finishes with. -/
theorem finish_of_le {done : Outcome × Machine σ}
    (h : r.finish board code limit watch fuel = some done) (hle : fuel ≤ fuel') :
    r.finish board code limit watch fuel' = some done := by
  induction fuel generalizing fuel' r with
  | zero => cases h
  | succ fuel ih =>
    obtain ⟨fuel', rfl⟩ := Nat.exists_eq_add_one.mpr (Nat.lt_of_lt_of_le (Nat.succ_pos fuel) hle)
    rw [finish] at h ⊢
    cases hs : r.step board code limit (watch r) with
    | inl done' =>
      rw [hs] at h
      exact h
    | inr next =>
      rw [hs] at h
      exact ih h (Nat.le_of_succ_le_succ hle)

/-- The statements that are left are fuel enough. -/
theorem exists_finish_of_forward (hf : GoesForward code) (hc : r.counter ≤ code.size)
    (hfuel : code.size - r.counter < fuel) :
    ∃ done, r.finish board code limit watch fuel = some done := by
  induction fuel generalizing r with
  | zero => cases hfuel
  | succ fuel ih =>
    rw [finish]
    cases hs : r.step board code limit (watch r) with
    | inl done => exact ⟨done, rfl⟩
    | inr next =>
      obtain ⟨i, hi, hp⟩ := exists_performed_of_next hs
      obtain ⟨hlt, hle⟩ := counter_lt_of_perform hf hi hp
      exact ih hle (by omega)

/-- The numbers of the statements that are done go up. -/
theorem ascending_counters (hf : GoesForward code) (board : Pins.Board σ) (limit : UInt32)
    (watch : Run σ → Sample) (fuel : Nat) (r : Run σ) :
    let counters := (acts (recorded board code limit watch fuel r).1).map (·.counter)
    counters.Pairwise (· < ·) ∧ ∀ c ∈ counters, r.counter ≤ c ∧ c < code.size := by
  induction fuel generalizing r with
  | zero => exact ⟨.nil, nofun⟩
  | succ fuel ih =>
    cases hi : code[r.counter]? with
    | none =>
      rw [recorded_of_none hi]
      exact ⟨.nil, nofun⟩
    | some i =>
      have hc : r.counter < code.size := (Array.getElem?_eq_some_iff.mp hi).1
      cases hs : (watch r).stops limit with
      | true =>
        rw [recorded_of_stops hi hs]
        exact ⟨.nil, nofun⟩
      | false =>
        rw [recorded_of_goes_on hi hs]
        cases hp : r.perform board code.size i with
        | inl done => exact ⟨List.pairwise_singleton _ _, by simpa [acts] using hc⟩
        | inr next =>
          have hlt := (counter_lt_of_perform hf hi hp).1
          obtain ⟨hascending, hbounds⟩ := ih next
          refine ⟨.cons (fun c hmem => ?_) hascending, List.forall_mem_cons.mpr ⟨?_, fun c hmem => ?_⟩⟩
          · exact Nat.lt_of_lt_of_le hlt (hbounds c hmem).1
          · exact ⟨Nat.le_refl _, hc⟩
          · exact ⟨Nat.le_trans (Nat.le_of_lt hlt) (hbounds c hmem).1, (hbounds c hmem).2⟩

/-- A run that no sample stops ends by a return, or behind the last statement. -/
theorem ending_of_finish (hw : ∀ r, (watch r).stops limit = false)
    (h : r.finish board code limit watch fuel = some (outcome, m)) :
    outcome.ending = .returned ∨ outcome.ending = .fellOffEnd := by
  induction fuel generalizing r with
  | zero => cases h
  | succ fuel ih =>
    rw [finish] at h
    cases hi : code[r.counter]? with
    | none =>
      rw [step_eq, hi] at h
      cases h
      exact .inr rfl
    | some i =>
      rw [step_of_goes_on hi (hw r)] at h
      cases hp : r.perform board code.size i with
      | inl done =>
        obtain ⟨o, m'⟩ := done
        obtain ⟨e, -, ho, -⟩ := perform_eq_inl hp
        rw [hp] at h
        cases h
        exact .inl (congrArg Outcome.ending ho)
      | inr next =>
        rw [hp] at h
        exact ih h

end Run

/-- Numbers below `n` that go up are `n` at most. -/
theorem length_le_of_ascending {n : Nat} {ns : List Nat} (h : ns.Pairwise (· < ·))
    (hn : ∀ k ∈ ns, k < n) : ns.length ≤ n := by
  have hsub : ns.Subperm (List.range n) :=
    List.Nodup.subperm (h.imp Nat.ne_of_lt) fun k hk => List.mem_range.mpr (hn k hk)
  simpa using hsub.length_le

/-- If every label that a statement of a script names is bound to a later statement, or past the
last one, or to none, and nothing stops the run from outside, then the run ends. It ends by a return
or behind the last statement, whatever the arguments, the mailbox and the board are. The numbers of
the statements that it does go up, so none is done twice, and its outcome counts them, so it counts
no more than the program has. -/
theorem Program.ends_of_forward {limits : Limits} {source : Bytes} {p : Program}
    (_ : Program.parse limits source = .ok p) (hf : p.IsForward) (board : Pins.Board σ)
    (limit : UInt32) (watch : Run σ → Sample) (hw : ∀ r, (watch r).stops limit = false)
    (arguments : List Int32) (mailbox : Mailbox) (pins : σ) :
    let first := Run.start (.load arguments mailbox pins)
    ∃ outcome m, outcome.steps ≤ p.statements.size ∧
      (outcome.ending = .returned ∨ outcome.ending = .fellOffEnd) ∧
      ∀ fuel, p.statements.size < fuel →
        let recorded := Run.recorded board p.instructions limit watch fuel first
        let counters := (acts recorded.1).map (·.counter)
        first.finish board p.instructions limit watch fuel = some (outcome, m) ∧
        recorded.2 = some (outcome, m) ∧ counters.Pairwise (· < ·) ∧
        (∀ c ∈ counters, c < p.statements.size) ∧ counters.length = outcome.steps := by
  intro first
  have hsize : p.instructions.size = p.statements.size := Array.size_map ..
  have hforward := hf.goesForward
  obtain ⟨⟨outcome, m⟩, hfinish⟩ : ∃ done,
      first.finish board p.instructions limit watch (p.statements.size + 1) = some done := by
    refine Run.exists_finish_of_forward hforward (Nat.zero_le _) ?_
    rw [hsize]
    exact Nat.lt_succ_of_le (Nat.sub_le _ _)
  have hcounters : ∀ fuel, p.statements.size < fuel →
      let recorded := Run.recorded board p.instructions limit watch fuel first
      let counters := (acts recorded.1).map (·.counter)
      first.finish board p.instructions limit watch fuel = some (outcome, m) ∧
      recorded.2 = some (outcome, m) ∧ counters.Pairwise (· < ·) ∧
      (∀ c ∈ counters, c < p.statements.size) ∧ counters.length = outcome.steps := by
    intro fuel hfuel recorded counters
    obtain ⟨hascending, hbounds⟩ :=
      Run.ascending_counters hforward board limit watch fuel first
    have hfinish := Run.finish_of_le hfinish hfuel
    refine ⟨hfinish, Run.snd_recorded.trans hfinish, hascending, fun c hc => ?_, ?_⟩
    · exact hsize ▸ (hbounds c hc).2
    · rw [List.length_map, Run.steps_eq_length_acts hfinish]
      exact (Nat.zero_add _).symm
  refine ⟨outcome, m, ?_, Run.ending_of_finish hw hfinish, hcounters⟩
  obtain ⟨-, -, hascending, hbounds, hlength⟩ := hcounters _ (Nat.lt_succ_self _)
  exact hlength ▸ length_le_of_ascending hascending hbounds

/-- A script jumps over a return, falls through a jump past its end and through one to a label that
is not there, and does four of its five statements. -/
theorem Program.ends_of_forward_past_the_end :
    let source := Bytes.ofText
      "IF R0 > 0 GOTO skip; RET 1\nskip: GOTO end; LET R1 2\nGOTO nosuch\nEND:"
    let first := Run.start (.load [1] (.empty 4) ({} : Pins.Bank))
    ∃ p outcome m, Program.parse {} source = .ok p ∧ p.statements.size = 5 ∧ p.IsForward ∧
      first.finish Pins.Bank.board p.instructions 0 (fun _ => .calm) 6 = some (outcome, m) ∧
      outcome.steps = 4 ∧ (outcome.ending = .returned ∨ outcome.ending = .fellOffEnd) := by
  intro source first
  let counters := fun p : Program => (acts (Run.recorded Pins.Bank.board p.instructions 0
    (fun _ => .calm) 6 first).1).map (·.counter)
  obtain ⟨p, hp, htest⟩ := @exists_program_of_any {} source
    (fun p => p.statements.size = 5 && p.IsForward && counters p = [0, 2, 3, 4])
    (by decide +kernel)
  simp only [Bool.and_eq_true, decide_eq_true_eq] at htest
  obtain ⟨⟨hsize, hforward⟩, hcounters⟩ := htest
  obtain ⟨outcome, m, -, hending, hruns⟩ := Program.ends_of_forward hp hforward Pins.Bank.board 0
    (fun _ => .calm) (fun _ => rfl) [1] (.empty 4) {}
  obtain ⟨hfinish, -, -, -, hsteps⟩ := hruns 6 (by omega)
  exact ⟨p, outcome, m, hp, hsize, hforward, hfinish, by rw [← hsteps]; exact congrArg _ hcounters,
    hending⟩

end Coprocessor.Script
