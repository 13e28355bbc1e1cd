import Coprocessor.Proofs.Thumb.Confinement

/-!
# Runs with a record

A run looks at samples and acts in between. Its record is the list of these moments, the first one
first (`Moment`). A run heeds samples if a look at one of them is the last moment there is
(`Moment.Heeds`).

A call of code looks at the cancel flag before each instruction. With a record it returns what it
returns without (`Core.snd_recordedInvoke`), and the record tells at which cores an instruction is
done : number `n` is done at the core that `n` instructions make of the first, if the budget allows
it and no look so far has shown the flag (`Core.getElem?_acts_recordedInvoke`).
-/

namespace Coprocessor

/-- A moment of a run. -/
inductive Moment (ι κ : Type) where
  /-- The run looks at a sample. -/
  | look (sample : ι)
  /-- It acts, from a state. -/
  | act (state : κ)

namespace Moment

variable {ι κ : Type}

/-- The states from which a run acts. -/
def acts : List (Moment ι κ) → List κ
  | [] => []
  | .look _ :: rest => acts rest
  | .act state :: rest => state :: acts rest

/-- Nothing comes after a look at a sample that stops. -/
def Heeds (stops : ι → Prop) (record : List (Moment ι κ)) : Prop :=
  ∀ before sample after, record = before ++ .look sample :: after → stops sample → after = []

variable {stops : ι → Prop} {sample : ι} {state : κ} {rest : List (Moment ι κ)}

theorem heeds_nil : Heeds stops ([] : List (Moment ι κ)) := by
  intro before sample after h
  simp at h

theorem heeds_look (sample : ι) : Heeds stops ([.look sample] : List (Moment ι κ)) := by
  intro before sample after h
  cases before with
  | nil =>
    obtain ⟨-, rfl⟩ := List.cons.inj h
    exact fun _ => rfl
  | cons m before => simp at h

theorem Heeds.cons (h : Heeds stops rest) (hs : ¬stops sample) :
    Heeds stops (.look sample :: .act state :: rest) := by
  intro before sample' after hsplit hstop
  match before, hsplit with
  | [], hsplit =>
    obtain ⟨hlook, -⟩ := List.cons.inj hsplit
    cases hlook
    exact absurd hstop hs
  | [_], hsplit => cases (List.cons.inj (List.cons.inj hsplit).2).1
  | _ :: _ :: before, hsplit =>
    exact h before sample' after (List.cons.inj (List.cons.inj hsplit).2).2 hstop

end Moment

namespace Thumb

/-- What a call returns if the core goes no further. -/
def Halt.answer : Halt → Except Status Int32
  | returned value => .ok value.toInt32
  | fault => .error .execution

namespace Core

open Moment (acts Heeds)

/-! ## Runs of a core -/

/-- The record of a run of at most `budget` instructions, the first of them being number `count`,
and what the run returns. -/
def recordedRun (code : Array UInt8) (cancelled : Nat → Bool) :
    (budget count : Nat) → Core → List (Moment Bool Core) × Except Status Int32
  | 0, _, _ => ([], .error .execution)
  | budget + 1, count, c =>
    if cancelled count then ([.look true], .error .timeout)
    else match c.step code with
      | .ok d =>
        let rest := recordedRun code cancelled budget (count + 1) d
        (.look false :: .act c :: rest.1, rest.2)
      | .error halt => ([.look false, .act c], halt.answer)

/-- The record of a call of code, and what the call returns. -/
def recordedInvoke (code : Bytes) (arguments : Vector Int32 Arguments.codeCount)
    (cancelled : Nat → Bool) (budget : Nat) : List (Moment Bool Core) × Except Status Int32 :=
  if accepts code then recordedRun code.toArray cancelled budget 0 (start arguments)
  else ([], .error .parameter)

variable {code : Array UInt8} {cancelled : Nat → Bool} {budget count n : Nat} {c d : Core}

/-- What a run with an instruction left does at a core. -/
theorem run_succ (h : cancelled count = false) : run code cancelled (budget + 1) count c =
    match c.step code with
    | .ok d => run code cancelled budget (count + 1) d
    | .error halt => halt.answer := by
  rw [run, h, if_neg Bool.false_ne_true]
  cases c.step code with
  | ok d => rfl
  | error halt => cases halt <;> rfl

/-- What is recorded does not change what is returned. -/
theorem snd_recordedRun : (recordedRun code cancelled budget count c).2 =
    run code cancelled budget count c := by
  induction budget generalizing count c with
  | zero => rfl
  | succ budget ih =>
    cases hc : cancelled count with
    | true => rw [recordedRun, run, hc, if_pos rfl, if_pos rfl]
    | false =>
      rw [recordedRun, run_succ hc, hc, if_neg Bool.false_ne_true]
      cases c.step code with
      | ok d => exact ih
      | error halt => rfl

/-- A run goes no further than a look that shows the flag. -/
theorem heeds_recordedRun : Heeds (· = true) (recordedRun code cancelled budget count c).1 := by
  induction budget generalizing count c with
  | zero => exact Moment.heeds_nil
  | succ budget ih =>
    rw [recordedRun]
    split
    case isTrue => exact Moment.heeds_look true
    case isFalse =>
      cases c.step code with
      | ok d => exact ih.cons Bool.false_ne_true
      | error halt => exact Moment.heeds_nil.cons Bool.false_ne_true

/-- Instruction `n` of a run is done if the run comes to it and no look so far has shown the
flag. -/
theorem getElem?_acts_recordedRun :
    (acts (recordedRun code cancelled budget count c).1)[n]? = some d ↔
      n < budget ∧ after code n c = .ok d ∧ ∀ i ≤ n, cancelled (count + i) = false := by
  induction budget generalizing count c n with
  | zero => simp [recordedRun, acts]
  | succ budget ih =>
    rw [recordedRun]
    cases hc : cancelled count with
    | true =>
      refine iff_of_false (by simp [acts]) fun h => ?_
      exact Bool.false_ne_true ((h.2.2 0 (Nat.zero_le n)).symm.trans hc)
    | false =>
      rw [if_neg Bool.false_ne_true]
      cases n with
      | zero =>
        cases c.step code <;> simp [acts, after, hc]
      | succ n =>
        have hlooks : (∀ i ≤ n + 1, cancelled (count + i) = false) ↔
            ∀ i ≤ n, cancelled (count + 1 + i) = false := by
          simp only [Nat.add_right_comm count 1, Nat.add_assoc count]
          refine ⟨fun h i hi => h (i + 1) (Nat.succ_le_succ hi), fun h i hi => ?_⟩
          cases i with
          | zero => exact hc
          | succ i => exact h i (Nat.le_of_succ_le_succ hi)
        cases hstep : c.step code with
        | ok c' =>
          rw [after_succ hstep, Nat.succ_lt_succ_iff, hlooks]
          exact ih
        | error halt =>
          refine iff_of_false (by simp [acts]) fun h => ?_
          have hafter := h.2.1
          rw [after, hstep] at hafter
          cases hafter

/-- The last of some instructions is done after the others. -/
theorem after_add_one (h : after code n c = .ok d) : after code (n + 1) c = d.step code := by
  induction n generalizing c with
  | zero =>
    cases h
    rw [after]
    cases d.step code <;> rfl
  | succ n ih =>
    obtain ⟨c', hstep, hrest⟩ := exists_of_bind_eq_ok h
    rw [after_succ hstep, ih hrest]

/-- A run goes on from a core that it comes to as from its first. -/
theorem run_of_after (hn : n ≤ budget) (h : after code n c = .ok d)
    (hc : ∀ i < n, cancelled (count + i) = false) :
    run code cancelled budget count c = run code cancelled (budget - n) (count + n) d := by
  induction n generalizing budget count c with
  | zero =>
    cases h
    rfl
  | succ n ih =>
    obtain ⟨budget, rfl⟩ := Nat.exists_eq_add_one_of_ne_zero (Nat.ne_zero_of_lt hn)
    obtain ⟨c', hstep, hrest⟩ := exists_of_bind_eq_ok h
    have hfirst : cancelled count = false := hc 0 (Nat.succ_pos n)
    rw [run_succ hfirst, hstep]
    have hlooks : ∀ i < n, cancelled (count + 1 + i) = false := fun i hi => by
      rw [Nat.add_right_comm, Nat.add_assoc]
      exact hc (i + 1) (Nat.succ_lt_succ hi)
    have hnext := ih (Nat.le_of_succ_le_succ hn) hrest hlooks
    rw [Nat.succ_sub_succ, Nat.add_comm n, ← Nat.add_assoc]
    exact hnext

/-! ## Calls -/

section

variable {code : Bytes} {arguments : Vector Int32 Arguments.codeCount}

theorem snd_recordedInvoke : (recordedInvoke code arguments cancelled budget).2 =
    invoke code arguments cancelled budget := by
  rw [recordedInvoke, invoke]
  split
  case isTrue => exact snd_recordedRun
  case isFalse => rfl

theorem heeds_recordedInvoke :
    Heeds (· = true) (recordedInvoke code arguments cancelled budget).1 := by
  rw [recordedInvoke]
  split
  case isTrue => exact heeds_recordedRun
  case isFalse => exact Moment.heeds_nil

theorem getElem?_acts_recordedInvoke :
    (acts (recordedInvoke code arguments cancelled budget).1)[n]? = some c ↔
      accepts code = true ∧ n < budget ∧ after code.toArray n (start arguments) = .ok c ∧
        ∀ i ≤ n, cancelled i = false := by
  rw [recordedInvoke]
  split
  case isTrue h => simp [getElem?_acts_recordedRun, h]
  case isFalse h => simp [acts, h]

/-- What a call returns is told by any instruction that it does. -/
theorem invoke_of_acts
    (h : (acts (recordedInvoke code arguments cancelled budget).1)[n]? = some c) :
    invoke code arguments cancelled budget =
      match c.step code.toArray with
      | .ok d => run code.toArray cancelled (budget - (n + 1)) (n + 1) d
      | .error halt => halt.answer := by
  obtain ⟨haccepts, hn, hafter, hc⟩ := getElem?_acts_recordedInvoke.mp h
  have hrun : run code.toArray cancelled budget 0 (start arguments) = _ :=
    run_of_after (Nat.le_of_lt hn) hafter fun i hi => by
      rw [Nat.zero_add]
      exact hc i (Nat.le_of_lt hi)
  have hleft : budget - n = budget - (n + 1) + 1 := by omega
  rw [invoke, if_pos haccepts, hrun, Nat.zero_add, hleft, run_succ (hc n (Nat.le_refl n))]

/-- An instruction is the last one of a call if no next one is done. -/
theorem length_acts_eq (h : (acts (recordedInvoke code arguments cancelled budget).1)[n]? = some c)
    (hnext : ∀ d, (acts (recordedInvoke code arguments cancelled budget).1)[n + 1]? ≠ some d) :
    (acts (recordedInvoke code arguments cancelled budget).1).length = n + 1 := by
  obtain ⟨hn, -⟩ := List.getElem?_eq_some_iff.mp h
  have hle := List.getElem?_eq_none_iff.mp (Option.eq_none_iff_forall_ne_some.mpr hnext)
  omega

/-- An instruction at which the core halts is the last one of a call, and ends it. -/
theorem invoke_of_halts {halt : Halt}
    (h : (acts (recordedInvoke code arguments cancelled budget).1)[n]? = some c)
    (hstep : c.step code.toArray = .error halt) :
    (acts (recordedInvoke code arguments cancelled budget).1).length = n + 1 ∧
      invoke code arguments cancelled budget = halt.answer := by
  refine ⟨length_acts_eq h fun d hd => ?_, by rw [invoke_of_acts h, hstep]⟩
  obtain ⟨-, -, hafter, -⟩ := getElem?_acts_recordedInvoke.mp h
  obtain ⟨-, -, hnext, -⟩ := getElem?_acts_recordedInvoke.mp hd
  rw [after_add_one hafter, hstep] at hnext
  cases hnext

/-- A call returns a value at an instruction that does. -/
theorem invoke_eq_ok_iff {value : Int32} : invoke code arguments cancelled budget = .ok value ↔
    ∃ (n : Nat) (c : Core) (v : UInt32),
      (acts (recordedInvoke code arguments cancelled budget).1)[n]? = some c ∧
      c.step code.toArray = .error (.returned v) ∧ v.toInt32 = value := by
  constructor
  case mp =>
    intro h
    rw [invoke] at h
    split at h
    case isFalse => cases h
    case isTrue haccepts =>
      obtain ⟨n, -, c, hafter, hc, hending⟩ :=
        exists_ending code.toArray cancelled budget 0 (start arguments)
      simp only [Nat.zero_add] at hc hending
      rw [h] at hending
      cases hending with
      | @returned v hn hlast hstep =>
        refine ⟨n, c, v, getElem?_acts_recordedInvoke.mpr ⟨haccepts, hn, hafter, ?_⟩, hstep, rfl⟩
        intro i hi
        rcases Nat.lt_or_eq_of_le hi with hi | rfl
        · exact hc i hi
        · exact hlast
  case mpr =>
    rintro ⟨n, c, v, hact, hstep, rfl⟩
    rw [invoke_of_acts hact, hstep]
    rfl

end

end Core

end Thumb

end Coprocessor
