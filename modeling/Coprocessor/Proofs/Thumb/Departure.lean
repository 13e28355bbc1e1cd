import Coprocessor.Proofs.Thumb.Recorded

/-!
# How code is left

A branch goes by an offset of at most two kilobytes, and it may go out of the code. It is a fault
then, unless it goes to the return address, which is where the link register points at the
beginning : to jump there is to return, whatever instruction does it. Seen from the code this
address lies two bytes before its first byte, so a branch comes to it by going round below zero.

`Core.invoke_leaves_code` says so for every instruction of a call that is a taken branch, and that a
call returns a value only by a jump through a register or the stack to the return address, or by
such a branch.
-/

namespace Coprocessor.Thumb

open Instruction (decode field branchOffset readAddSub readImmediate readHigh readMiscellaneous)
open Moment (acts)

/-! ## Offsets -/

/-- Only branches have an offset. -/
theorem eq_branchOffset {op : UInt16} {i : Instruction} {flags : Flags} {offset : UInt32}
    (hi : decode op = some i) (ho : i.takenOffset? flags = some offset) :
    offset = branchOffset op 8 ∨ offset = branchOffset op 11 := by
  unfold decode at hi
  split at hi
  case h_1 | h_2 | h_3 =>
    cases hi
    cases ho
  case h_4 =>
    cases hi
    by_cases h : field op 9 1 = 1 <;> simp [readAddSub, h, Instruction.takenOffset?] at ho
  case h_5 | h_6 | h_7 | h_8 =>
    cases hi
    unfold readImmediate at ho
    split at ho <;> cases ho
  case h_9 =>
    split at hi
    case isTrue =>
      obtain ⟨operation, -, rfl⟩ := Option.map_eq_some_iff.mp hi
      cases ho
    case isFalse =>
      cases hi
      unfold readHigh at ho
      split at ho <;> cases ho
  case h_10 | h_11 =>
    unfold readMiscellaneous at hi
    split at hi
    case h_6 =>
      split at hi <;> cases hi
      cases ho
    case h_7 => cases hi
    all_goals
      cases hi
      cases ho
  case h_12 | h_13 =>
    obtain ⟨condition, -, rfl⟩ := Option.map_eq_some_iff.mp hi
    rw [Instruction.takenOffset?] at ho
    split at ho <;> cases ho
    exact .inl rfl
  case h_14 =>
    cases hi
    cases ho
    exact .inr rfl
  case h_15 => cases hi

theorem signed_ofNat_of_lt {n : Nat} (h : n < 2 ^ 31) : signed (.ofNat n) = n := by
  have hn : (UInt32.ofNat n).toNat = n := UInt32.toNat_ofNat_of_lt' (Nat.lt_trans h (by decide))
  rw [signed_eq, hn, if_neg (Nat.not_le.mpr h)]

theorem signed_ofNat_of_le {n : Nat} (h : 2 ^ 31 ≤ n) (h' : n < 2 ^ 32) :
    signed (.ofNat n) = (n : Int) - 2 ^ 32 := by
  have hn : (UInt32.ofNat n).toNat = n := UInt32.toNat_ofNat_of_lt' h'
  rw [signed_eq, hn, if_pos h]

/-- The offset of a branch is twice a signed number of as many bits. -/
theorem exists_signed_branchOffset (op : UInt16) {bits : Nat} (hbits : bits ≤ 10) :
    ∃ k : Int, signed (branchOffset op (bits + 1)) = 2 * k ∧ -1024 ≤ k ∧ k < 1024 := by
  have hn : field op 0 (bits + 1) < 2 ^ (bits + 1) := Nat.mod_lt _ (Nat.two_pow_pos _)
  have hhalf : 2 ^ bits ≤ 2 ^ 10 := Nat.pow_le_pow_right (by decide) hbits
  have htwice : 2 ^ (bits + 1) = 2 * 2 ^ bits := Nat.pow_succ'
  unfold branchOffset
  simp only [Nat.add_sub_cancel, Nat.pow_eq]
  generalize field op 0 (bits + 1) = n at hn
  rw [htwice] at hn ⊢
  generalize 2 ^ bits = half at hn hhalf
  split
  case isTrue h =>
    refine ⟨n, ?_, by omega, by omega⟩
    rw [signed_ofNat_of_lt (by omega)]
    omega
  case isFalse h =>
    refine ⟨n - 2 * half, ?_, by omega, by omega⟩
    rw [signed_ofNat_of_le (by omega) (by omega)]
    omega

/-- The offset of a branch is even, and it is between -2048 and 2046. -/
theorem exists_signed_of_decode {op : UInt16} {i : Instruction} {flags : Flags} {offset : UInt32}
    (hi : decode op = some i) (ho : i.takenOffset? flags = some offset) :
    ∃ k : Int, signed offset = 2 * k ∧ -1024 ≤ k ∧ k < 1024 := by
  rcases eq_branchOffset hi ho with rfl | rfl
  · exact exists_signed_branchOffset op (by decide)
  · exact exists_signed_branchOffset op (by decide)

/-! ## Even addresses -/

theorem and_mask_of_even {w : UInt32} (h : w.toNat % 2 = 0) : w &&& ~~~1 = w := by
  have hlower := Core.even_mask w
  have hupper : (w &&& ~~~1).toNat / 2 = w.toNat / 2 := by
    have hmask : (~~~1 : UInt32).toNat / 2 = 2 ^ 31 - 1 := rfl
    have hlt := w.toNat_lt
    rw [UInt32.toNat_and, ← Nat.pow_one 2, Nat.and_div_two_pow, Nat.pow_one, hmask,
      Nat.and_two_pow_sub_one_eq_mod]
    omega
  rw [← UInt32.toNat_inj]
  omega

namespace Core

variable {code : Array UInt8} {c c' : Core} {n : Nat}

/-- The instruction at the program counter. -/
def instruction? (code : Array UInt8) (c : Core) : Option Instruction :=
  (fetch? code (c.registers.get Register.pc)).bind decode

theorem step_eq (code : Array UInt8) (c : Core) :
    c.step code = (c.instruction? code).elim (.error .fault) (c.next.execute code) := by
  rw [step, instruction?]
  cases (fetch? code (c.registers.get Register.pc)).bind decode <;> rfl

theorem even_pc_next (h : (c.registers.get Register.pc).toNat % 2 = 0) :
    (c.next.registers.get Register.pc).toNat % 2 = 0 := by
  have htwo : (2 : UInt32).toNat = 2 := rfl
  rw [next, get_put_self, UInt32.toNat_add, htwo]
  omega

/-- The program counter stays even, however long the code is. -/
theorem even_pc_step (h : c.step code = .ok c')
    (hc : (c.registers.get Register.pc).toNat % 2 = 0) :
    (c'.registers.get Register.pc).toNat % 2 = 0 := by
  rw [step_eq] at h
  cases hi : c.instruction? code with
  | none =>
    rw [hi] at h
    cases h
  | some i =>
    rw [hi] at h
    have hexecuted := executed code c.next i
    rw [show c.next.execute code i = .ok c' from h] at hexecuted
    generalize hx : (.ok c' : Except Halt Core) = x at hexecuted
    cases hexecuted with
    | stays hpc =>
      cases hx
      rw [hpc]
      exact even_pc_next hc
    | faults => cases hx
    | leaps | branches => exact (confined_jumpTo hx.symm).even

theorem even_pc_after (h : after code n c = .ok c')
    (hc : (c.registers.get Register.pc).toNat % 2 = 0) :
    (c'.registers.get Register.pc).toNat % 2 = 0 := by
  induction n generalizing c with
  | zero =>
    cases h
    exact hc
  | succ n ih =>
    obtain ⟨d, hstep, hafter⟩ := exists_of_bind_eq_ok h
    exact ih hafter (even_pc_step hstep hc)

theorem even_pc_start (arguments : Vector Int32 Arguments.codeCount) :
    ((start arguments).registers.get Register.pc).toNat % 2 = 0 :=
  (Confined.start #[] arguments).even

/-! ## Branches out of the code -/

variable {i : Instruction} {offset : UInt32}

theorem exists_of_instruction? (h : c.instruction? code = some i) :
    ∃ op, fetch? code (c.registers.get Register.pc) = some op ∧ decode op = some i :=
  Option.bind_eq_some_iff.mp h

/-- A taken branch is a jump by its offset, counted from the second next instruction. -/
theorem step_of_takenOffset? (hi : c.instruction? code = some i)
    (ho : i.takenOffset? c.flags = some offset) :
    c.step code = c.next.jumpTo code (c.registers.get Register.pc + 4 + offset) := by
  have hexecute : c.next.execute code i = _ := execute_of_takenOffset? ho
  rw [step_eq, hi, ← get_pc_next_add]
  exact hexecute

/-- Where a branch of a core at an even address goes, as a place of the code. -/
theorem toNat_target (hi : c.instruction? code = some i) (ho : i.takenOffset? c.flags = some offset)
    (hc : (c.registers.get Register.pc).toNat % 2 = 0) :
    ∃ k : Int, signed offset = 2 * k ∧ -1024 ≤ k ∧ k < 1024 ∧
      ((c.registers.get Register.pc + 4 + offset).toNat : Int) =
        ((c.registers.get Register.pc).toNat + 4 + signed offset) % 2 ^ 32 ∧
      (c.registers.get Register.pc + 4 + offset).toNat % 2 = 0 := by
  obtain ⟨op, -, hop⟩ := exists_of_instruction? hi
  obtain ⟨k, hk, hlower, hupper⟩ := exists_signed_of_decode hop ho
  have hfour : (4 : UInt32).toNat = 4 := rfl
  have hsigned := signed_eq offset
  rw [UInt32.toNat_add, UInt32.toNat_add, hfour]
  refine ⟨k, hk, hlower, hupper, ?_, ?_⟩
  all_goals
    split at hsigned <;> omega

/-- A branch out of the code returns from the return address, and is a fault elsewhere. -/
theorem step_of_branch_out (hi : c.instruction? code = some i)
    (ho : i.takenOffset? c.flags = some offset)
    (hc : (c.registers.get Register.pc).toNat % 2 = 0)
    (hout : code.size ≤ (c.registers.get Register.pc + 4 + offset).toNat) :
    c.step code = .error
      (if c.registers.get Register.pc + 4 + offset = returnAddress
        then .returned (c.registers.get Register.first) else .fault) := by
  obtain ⟨k, -, -, -, -, heven⟩ := toNat_target hi ho hc
  rw [step_of_takenOffset? hi ho, jumpTo_eq, and_mask_of_even heven, if_pos hout,
    get_next_of_ne (by decide)]
  split <;> rfl

/-- Branches leave code of ordinary size at both ends, and they come to the return address two
bytes before its beginning only. -/
theorem branch_out_iff (hi : c.instruction? code = some i)
    (ho : i.takenOffset? c.flags = some offset)
    (hc : (c.registers.get Register.pc).toNat % 2 = 0) (hsize : code.size < 2 ^ 31) :
    (code.size ≤ (c.registers.get Register.pc + 4 + offset).toNat ↔
      ((c.registers.get Register.pc).toNat : Int) + 4 + signed offset < 0 ∨
        (code.size : Int) ≤ (c.registers.get Register.pc).toNat + 4 + signed offset) ∧
    (c.registers.get Register.pc + 4 + offset = returnAddress ↔
      ((c.registers.get Register.pc).toNat : Int) + 4 + signed offset = -2) := by
  obtain ⟨op, hfetch, -⟩ := exists_of_instruction? hi
  have hpc := le_of_fetch? hfetch
  obtain ⟨k, hk, hlower, hupper, htarget, -⟩ := toNat_target hi ho hc
  have hreturn : returnAddress.toNat = 2 ^ 32 - 2 := rfl
  rw [← UInt32.toNat_inj, hreturn]
  generalize (c.registers.get Register.pc + 4 + offset).toNat = target at htarget
  constructor <;> constructor <;> intro h <;> omega

/-- A core returns a value by a jump to the return address, and by nothing else. -/
theorem step_eq_returned_iff {value : UInt32} (hi : c.instruction? code = some i)
    (hc : (c.registers.get Register.pc).toNat % 2 = 0) :
    c.step code = .error (.returned value) ↔
      (∃ d target, c.next.Leaps i d target ∧ target &&& ~~~1 = returnAddress ∧
        d.registers.get Register.first = value) ∨
      ∃ offset, i.takenOffset? c.flags = some offset ∧
        c.registers.get Register.pc + 4 + offset = returnAddress ∧
        c.registers.get Register.first = value := by
  have hexecute : c.next.execute code i = .error (.returned value) ↔ _ := execute_eq_returned_iff
  rw [get_pc_next_add, get_next_of_ne (by decide)] at hexecute
  rw [step_eq, hi]
  refine hexecute.trans (or_congr_right (exists_congr fun offset => and_congr_right fun ho => ?_))
  obtain ⟨k, -, -, -, -, heven⟩ := toNat_target hi ho hc
  rw [and_mask_of_even heven]

theorem exists_instruction?_of_returned {value : UInt32}
    (h : c.step code = .error (.returned value)) : ∃ i, c.instruction? code = some i := by
  rw [step_eq] at h
  cases hi : c.instruction? code with
  | none =>
    rw [hi] at h
    cases h
  | some i => exact ⟨i, rfl⟩

/-! ## Calls -/

/-- Whatever code is called, a branch that it takes out of itself ends the call : with a fault,
unless the branch goes to the return address, which is where the link register points at the
beginning, and which lies two bytes before the code. To branch there is to return. A call returns
a value only by a jump through a register or the stack to that address, or by such a branch. -/
theorem invoke_leaves_code (code : Bytes) (arguments : Vector Int32 Arguments.codeCount)
    (cancelled : Nat → Bool) (budget : Nat) :
    let record := (recordedInvoke code arguments cancelled budget).1
    (start arguments).registers.get Register.lr = returnAddress ∧
    (∀ (n : Nat) (c : Core) (i : Instruction) (offset : UInt32), (acts record)[n]? = some c →
      c.instruction? code.toArray = some i → i.takenOffset? c.flags = some offset →
      let target := c.registers.get Register.pc + 4 + offset
      let place := ((c.registers.get Register.pc).toNat : Int) + 4 + signed offset
      (code.length < 2 ^ 31 →
        (code.length ≤ target.toNat ↔ place < 0 ∨ (code.length : Int) ≤ place) ∧
        (target = returnAddress ↔ place = -2)) ∧
      (code.length ≤ target.toNat →
        (acts record).length = n + 1 ∧
        invoke code arguments cancelled budget =
          if target = returnAddress then .ok (c.registers.get Register.first).toInt32
          else .error .execution)) ∧
    ∀ value, invoke code arguments cancelled budget = .ok value ↔
      ∃ (n : Nat) (c : Core) (i : Instruction), (acts record)[n]? = some c ∧
        c.instruction? code.toArray = some i ∧
        ((∃ d target, c.next.Leaps i d target ∧ target &&& ~~~1 = returnAddress ∧
            (d.registers.get Register.first).toInt32 = value) ∨
          ∃ offset, i.takenOffset? c.flags = some offset ∧
            c.registers.get Register.pc + 4 + offset = returnAddress ∧
            (c.registers.get Register.first).toInt32 = value) := by
  have heven {n : Nat} {c : Core}
      (h : (acts (recordedInvoke code arguments cancelled budget).1)[n]? = some c) :
      (c.registers.get Register.pc).toNat % 2 = 0 := by
    obtain ⟨-, -, hafter, -⟩ := getElem?_acts_recordedInvoke.mp h
    exact even_pc_after hafter (even_pc_start arguments)
  refine ⟨(Vector.getElem_ofFn (by decide)).trans rfl, fun n c i offset hact hi ho => ⟨?_, ?_⟩,
    fun value => ⟨fun h => ?_, ?_⟩⟩
  · exact branch_out_iff hi ho (heven hact)
  · intro hout
    obtain ⟨hlast, hanswer⟩ :=
      invoke_of_halts hact (step_of_branch_out hi ho (heven hact) hout)
    exact ⟨hlast, hanswer.trans (apply_ite Halt.answer _ _ _)⟩
  · obtain ⟨n, c, v, hact, hstep, rfl⟩ := invoke_eq_ok_iff.mp h
    obtain ⟨i, hi⟩ := exists_instruction?_of_returned hstep
    refine ⟨n, c, i, hact, hi, ?_⟩
    rcases (step_eq_returned_iff hi (heven hact)).mp hstep with
      ⟨d, target, hleaps, htarget, rfl⟩ | ⟨offset, ho, htarget, rfl⟩
    · exact .inl ⟨d, target, hleaps, htarget, rfl⟩
    · exact .inr ⟨offset, ho, htarget, rfl⟩
  · rintro ⟨n, c, i, hact, hi, h⟩
    refine invoke_eq_ok_iff.mpr ⟨n, c, ?_⟩
    rcases h with ⟨d, target, hleaps, htarget, rfl⟩ | ⟨offset, ho, htarget, rfl⟩
    · exact ⟨_, hact, (step_eq_returned_iff hi (heven hact)).mpr
        (.inl ⟨d, target, hleaps, htarget, rfl⟩), rfl⟩
    · exact ⟨_, hact, (step_eq_returned_iff hi (heven hact)).mpr
        (.inr ⟨offset, ho, htarget, rfl⟩), rfl⟩

/-- A branch to four bytes before the code is a fault. Code that sets register zero and jumps to the
link register returns what it has set. -/
theorem invoke_leaves_code_at_both_ends :
    let arguments : Vector Int32 Arguments.codeCount := #v[42, 0, 0, 0, 0, 0, 0, 0]
    let back : Bytes := [0xFC, 0xE7]
    let set : Bytes := [0x07, 0x20, 0x70, 0x47]
    (start arguments).instruction? back.toArray = some (.branch 0xFFFFFFF8) ∧
    ((start arguments).registers.get Register.pc).toNat + 4 + signed 0xFFFFFFF8 = -4 ∧
    invoke back arguments (fun _ => false) 3 = .error .execution ∧
    invoke set arguments (fun _ => false) 3 = .ok 7 ∧
    ∃ (n : Nat) (c : Core) (i : Instruction),
      (acts (recordedInvoke set arguments (fun _ => false) 3).1)[n]? = some c ∧
      c.instruction? set.toArray = some i ∧
      ((∃ d target, c.next.Leaps i d target ∧ target &&& ~~~1 = returnAddress ∧
          (d.registers.get Register.first).toInt32 = 7) ∨
        ∃ offset, i.takenOffset? c.flags = some offset ∧
          c.registers.get Register.pc + 4 + offset = returnAddress ∧
          (c.registers.get Register.first).toInt32 = 7) := by
  intro arguments back set
  have hi : (start arguments).instruction? back.toArray = some (.branch 0xFFFFFFF8) := by
    decide +kernel
  have hact : (acts (recordedInvoke back arguments (fun _ => false) 3).1)[0]? =
      some (start arguments) :=
    getElem?_acts_recordedInvoke.mpr ⟨by decide, by decide, rfl, fun _ _ => rfl⟩
  obtain ⟨-, hbranches, -⟩ := invoke_leaves_code back arguments (fun _ => false) 3
  obtain ⟨hplace, hout⟩ := hbranches 0 _ _ _ hact hi rfl
  have hleaves : back.length ≤ ((start arguments).registers.get Register.pc + 4 +
      0xFFFFFFF8).toNat := by decide +kernel
  have hfault : invoke back arguments (fun _ => false) 3 = .error .execution :=
    (hout hleaves).2.trans (if_neg (by decide +kernel))
  have hreturns : invoke set arguments (fun _ => false) 3 = .ok 7 := by
    have h : (invoke set arguments (fun _ => false) 3).toOption = some 7 := by decide +kernel
    revert h
    cases invoke set arguments (fun _ => false) 3 with
    | ok value => exact fun h => congrArg Except.ok (Option.some.inj h)
    | error status => exact fun h => by cases h
  obtain ⟨-, -, hvalues⟩ := invoke_leaves_code set arguments (fun _ => false) 3
  exact ⟨hi, by decide +kernel, hfault, hreturns, (hvalues 7).mp hreturns⟩

/-- A branch out of the code that is a jump through no register and not through the stack returns a
value if it goes two bytes back before the code. -/
theorem invoke_eq_ok_of_branch_back :
    let code : Bytes := [0xFD, 0xE7]
    let arguments : Vector Int32 Arguments.codeCount := #v[42, 0, 0, 0, 0, 0, 0, 0]
    let c := start arguments
    let record := (recordedInvoke code arguments (fun _ => false) 1).1
    ((acts record)[0]? = some c ∧ (acts record).length = 1) ∧
    c.instruction? code.toArray = some (.branch 0xFFFFFFFA) ∧
    code.length ≤ (c.registers.get Register.pc + 4 + 0xFFFFFFFA).toNat ∧
    (∀ d target, ¬c.next.Leaps (.branch 0xFFFFFFFA) d target) ∧
    invoke code arguments (fun _ => false) 1 = .ok 42 := by
  intro code arguments c record
  have hi : c.instruction? code.toArray = some (.branch 0xFFFFFFFA) := by decide +kernel
  have hact : (acts record)[0]? = some c :=
    getElem?_acts_recordedInvoke.mpr ⟨by decide, by decide, rfl, fun _ _ => rfl⟩
  have hout : code.length ≤ (c.registers.get Register.pc + 4 + 0xFFFFFFFA).toNat := by
    decide +kernel
  have hreturn : c.registers.get Register.pc + 4 + 0xFFFFFFFA = returnAddress := by decide +kernel
  have hfirst : (c.registers.get Register.first).toInt32 = 42 := by decide +kernel
  have hstep := step_of_branch_out hi rfl (even_pc_start arguments) hout
  rw [if_pos hreturn] at hstep
  obtain ⟨hlast, hanswer⟩ := invoke_of_halts hact hstep
  refine ⟨⟨hact, hlast⟩, hi, hout, ?_, hanswer.trans (congrArg Except.ok hfirst)⟩
  intro d target hleaps
  cases hleaps

end Core

end Coprocessor.Thumb
