import Coprocessor.Script.Machine

/-!
# One statement of a run

A step of a run looks at a sample and then does a statement, and the sample decides only
whether the statement is done : `Run.Stepped` lists what a step may come to, and
`Run.perform`, what the statement does, knows no sample. So a step that goes on does the
same whatever the sample and the time limit (`Run.step_calm_of_next`).

What every statement of a program keeps of the machine is kept by its runs, however they end
(`Run.kept_of_finish`).
-/

namespace Coprocessor.Script

/-- A sample that stops no run. -/
def Sample.calm : Sample :=
  ⟨0, false⟩

namespace Run

variable {σ : Type} {board : Pins.Board σ} {code : Array Instruction} {limit : UInt32}
  {sample : Sample} {r next : Run σ} {outcome : Outcome} {m : Machine σ}

/-- What a statement, of `count` in all, comes to in a run that nothing stops. -/
def perform (board : Pins.Board σ) (count : Nat) (i : Instruction) (r : Run σ) :
    (Outcome × Machine σ) ⊕ Run σ :=
  match r.machine.execute board i with
  | (.ret value, m) => .inl (⟨value, .returned, r.steps + 1⟩, m)
  | (.jump target, m) => .inr ⟨m, follow count r.counter target, r.steps + 1⟩
  | (.next, m) => .inr ⟨m, r.counter + 1, r.steps + 1⟩

/-- What a step may come to. -/
inductive Stepped (board : Pins.Board σ) (code : Array Instruction) (limit : UInt32)
    (sample : Sample) (r : Run σ) : (Outcome × Machine σ) ⊕ Run σ → Prop
  | fellOff (hi : code[r.counter]? = none) :
    Stepped board code limit sample r (.inl (⟨0, .fellOffEnd, r.steps⟩, r.machine))
  | late (i : Instruction) (hi : code[r.counter]? = some i) (hl : sample.isLate limit = true) :
    Stepped board code limit sample r (.inl (⟨0, .timedOut, r.steps⟩, r.machine))
  | cancelled (i : Instruction) (hi : code[r.counter]? = some i)
    (hl : sample.isLate limit = false) (hc : sample.cancelled = true) :
    Stepped board code limit sample r (.inl (⟨0, .cancelled, r.steps⟩, r.machine))
  | performed (i : Instruction) (hi : code[r.counter]? = some i)
    (hl : sample.isLate limit = false) (hc : sample.cancelled = false) :
    Stepped board code limit sample r (r.perform board code.size i)

theorem stepped (board : Pins.Board σ) (code : Array Instruction) (limit : UInt32)
    (sample : Sample) (r : Run σ) :
    Stepped board code limit sample r (r.step board code limit sample) := by
  unfold step
  split
  · rename_i hi
    exact .fellOff hi
  · rename_i i hi
    by_cases hl : sample.isLate limit = true
    · rw [if_pos hl]
      exact .late i hi hl
    · by_cases hc : sample.cancelled = true
      · rw [if_neg hl, if_pos hc]
        exact .cancelled i hi (by simpa using hl) hc
      · rw [if_neg hl, if_neg hc]
        exact .performed i hi (by simpa using hl) (by simpa using hc)

/-- A calm sample lets the statement be done. -/
theorem step_calm {i : Instruction} (hi : code[r.counter]? = some i) :
    r.step board code 0 .calm = r.perform board code.size i := by
  rw [step, hi]
  rfl

theorem steps_of_perform_next {count : Nat} {i : Instruction}
    (h : r.perform board count i = .inr next) : next.steps = r.steps + 1 := by
  unfold perform at h
  split at h <;> cases h <;> rfl

theorem steps_of_perform_over {count : Nat} {i : Instruction}
    (h : r.perform board count i = .inl (outcome, m)) : outcome.steps = r.steps + 1 := by
  unfold perform at h
  split at h <;> cases h
  rfl

/-- A step that goes on does a statement. -/
theorem exists_performed_of_next (h : r.step board code limit sample = .inr next) :
    ∃ i, code[r.counter]? = some i ∧ r.perform board code.size i = .inr next := by
  have performed : ∀ x, Stepped board code limit sample r x → x = .inr next →
      ∃ i, code[r.counter]? = some i ∧ r.perform board code.size i = .inr next := by
    intro x hs hx
    cases hs with
    | fellOff | late | cancelled => cases hx
    | performed i hi => exact ⟨i, hi, hx⟩
  exact performed _ (stepped board code limit sample r) h

/-- A step that goes on does the same whatever the sample and the time limit. -/
theorem step_calm_of_next (h : r.step board code limit sample = .inr next) :
    r.step board code 0 .calm = .inr next ∧ next.steps = r.steps + 1 := by
  obtain ⟨i, hi, hp⟩ := exists_performed_of_next h
  exact ⟨(step_calm hi).trans hp, steps_of_perform_next hp⟩

/-- A step that is the last one was no statement, or is the last one whatever the sample. -/
theorem steps_of_over (h : r.step board code limit sample = .inl (outcome, m)) :
    outcome.steps = r.steps ∨
      outcome.steps = r.steps + 1 ∧ r.step board code 0 .calm = .inl (outcome, m) := by
  have hs := stepped board code limit sample r
  rw [h] at hs
  generalize hx : (Sum.inl (outcome, m) : (Outcome × Machine σ) ⊕ Run σ) = x at hs
  cases hs with
  | fellOff | late | cancelled =>
    cases hx
    exact Or.inl rfl
  | performed i hi => exact Or.inr ⟨steps_of_perform_over hx.symm, by rw [step_calm hi]⟩

/-! ## What is left -/

/-- The machine that a step leaves, to the next one or for good. -/
def left : (Outcome × Machine σ) ⊕ Run σ → Machine σ :=
  Sum.elim (·.2) (·.machine)

theorem left_perform (board : Pins.Board σ) (count : Nat) (i : Instruction) (r : Run σ) :
    left (r.perform board count i) = (r.machine.execute board i).2 := by
  unfold perform
  split <;> rename_i hx <;> rw [hx] <;> rfl

/-- A step leaves the machine as it is, or as a statement of the program leaves it. -/
theorem left_step (board : Pins.Board σ) (code : Array Instruction) (limit : UInt32)
    (sample : Sample) (r : Run σ) : left (r.step board code limit sample) = r.machine ∨
      ∃ i ∈ code, left (r.step board code limit sample) = (r.machine.execute board i).2 := by
  have hs := stepped board code limit sample r
  generalize r.step board code limit sample = x at hs
  cases hs with
  | fellOff | late | cancelled => exact .inl rfl
  | performed i hi => exact .inr ⟨i, Array.mem_of_getElem? hi, left_perform board code.size i r⟩

/-- What every statement of a program keeps is kept by its runs, however they end. -/
theorem kept_of_finish {P : Machine σ → Prop} {watch : Run σ → Sample} {fuel : Nat}
    (h : r.finish board code limit watch fuel = some (outcome, m)) (hr : P r.machine)
    (hP : ∀ i ∈ code, ∀ m, P m → P (m.execute board i).2) : P m := by
  have hstep : ∀ r : Run σ, P r.machine → P (left (r.step board code limit (watch r))) := by
    intro r hr
    rcases left_step board code limit (watch r) r with hleft | ⟨i, hi, hleft⟩
    · exact hleft ▸ hr
    · exact hleft ▸ hP i hi r.machine hr
  induction fuel generalizing r with
  | zero => cases h
  | succ fuel ih =>
    have hr := hstep r hr
    rw [finish] at h
    cases hs : r.step board code limit (watch r) with
    | inl done =>
      rw [hs] at h hr
      cases h
      exact hr
    | inr next =>
      rw [hs] at h hr
      exact ih h hr

end Run

end Coprocessor.Script
