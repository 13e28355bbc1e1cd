import Coprocessor.Proofs.Thumb.Guarded
import Coprocessor.Proofs.Thumb.Jumps

/-!
# Code stays inside

The code of a call may set every register but the program counter to any word, and jump to any
address. Yet the program counter is always even and at most the length of the code
(`Core.Confined`), since jumps clear the lowest bit and go no further than the code, and since the
core is at the next instruction only behind a half word that it has fetched. What `PUSH` and `POP`
use is on the stack, or it is refused; if it is refused in the middle, what was used before it is
still on the stack. So the core does what the watched core does (`Core.safe_watchedStep`), and a
call is never lost (`Core.invoke_stays_inside`).
-/

namespace Coprocessor.Thumb.Core

open Attempt

variable {code : Array UInt8} {c c' : Core} {size : Nat}

/-! ## What is there -/

theorem toNat_of_slot? {address : UInt32} {i : Fin stackWords} (h : slot? address = some i) :
    address.toNat = stackBase.toNat + 4 * i := by
  simp only [slot?] at h
  split at h
  case isTrue => cases h
  case isFalse hle =>
    rw [UInt32.not_lt] at hle
    have hsub := UInt32.toNat_sub_of_le _ _ hle
    rw [UInt32.le_iff_toNat_le] at hle
    split at h
    case isFalse => cases h
    case isTrue hslot =>
      cases h
      simp only [hsub] at hslot ⊢
      omega

theorem within_of_load {address value : UInt32} (h : c.load address = .ok value) :
    (Access.stack address).Within size := by
  unfold load at h
  split at h
  case h_1 i hslot => exact ⟨i, i.isLt, toNat_of_slot? hslot⟩
  case h_2 => cases h

theorem within_of_store {address value : UInt32} (h : c.store address value = .ok c') :
    (Access.stack address).Within size := by
  unfold store at h
  split at h
  case h_1 i hslot => exact ⟨i, i.isLt, toNat_of_slot? hslot⟩
  case h_2 => cases h

theorem toNat_add_four_lt {address : UInt32} (h : (Access.stack address).Within 0) :
    address.toNat + (4 : UInt32).toNat < 2 ^ 32 := by
  obtain ⟨i, hi, haddress⟩ := h
  have hbase : stackBase.toNat = 0x20000000 := rfl
  have hfour : (4 : UInt32).toNat = 4 := rfl
  simp only [stackWords] at hi
  omega

theorem le_of_fetch? {address : UInt32} {op : UInt16} (h : fetch? code address = some op) :
    address.toNat + 2 ≤ code.size := by
  obtain ⟨lower, -, h⟩ := Option.bind_eq_some_iff.mp h
  obtain ⟨upper, hupper, -⟩ := Option.bind_eq_some_iff.mp h
  exact Array.getElem?_eq_some_iff.mp hupper |>.1

/-! ## The stack -/

theorem safe_watchedLoad (c : Core) (address : UInt32) :
    (c.watchedLoad address).Safe size (c.load address) :=
  safe_touch fun _ h => within_of_load h

theorem safe_watchedStoreAll (c : Core) (address : UInt32) (values : List UInt32) :
    (c.watchedStoreAll address values).Safe size (c.storeAll address values) := by
  induction values generalizing c address with
  | nil => exact safe_done _
  | cons value rest ih =>
    refine Safe.bind (safe_touch fun c' h => within_of_store h) fun c' h => ?_
    exact safe_sum_bind (toNat_add_four_lt (within_of_store h)) (ih c' _)

theorem safe_watchedLoadAll (c : Core) (address : UInt32) (registers : List LowRegister) :
    (c.watchedLoadAll address registers).Safe size (c.loadAll address registers) := by
  induction registers generalizing c address with
  | nil => exact safe_done _
  | cons r rest ih =>
    refine Safe.bind (safe_watchedLoad c address) fun value h => ?_
    exact safe_sum_bind (toNat_add_four_lt (within_of_load h)) (ih _ _)

/-! ## Confined cores -/

/-- The program counter is even, and it is in the code or right behind it. -/
structure Confined (code : Array UInt8) (c : Core) : Prop where
  even : (c.registers.get Register.pc).toNat % 2 = 0
  le : (c.registers.get Register.pc).toNat ≤ code.size

namespace Confined

theorem congr (h : c'.registers.get Register.pc = c.registers.get Register.pc)
    (hc : Confined code c) : Confined code c' :=
  ⟨h ▸ hc.even, h ▸ hc.le⟩

theorem put {r : Register} (h : r ≠ Register.pc) (value : UInt32) (hc : Confined code c) :
    Confined code (c.put r value) :=
  hc.congr (get_put_of_ne h.symm value)

theorem toNat_add (hc : Confined code c) (hsize : code.size < 2 ^ 31) {n : UInt32}
    (hn : n.toNat ≤ 4) : (c.registers.get Register.pc).toNat + n.toNat < 2 ^ 32 := by
  have hle := hc.le
  omega

/-- Behind a half word that is there, the core is confined. -/
theorem next (hc : Confined code c) (hsize : code.size < 2 ^ 31) {op : UInt16}
    (h : fetch? code (c.registers.get Register.pc) = some op) : Confined code c.next := by
  have hle := le_of_fetch? h
  have heven := hc.even
  have htwo : (2 : UInt32).toNat = 2 := rfl
  have hpc : (c.next.registers.get Register.pc).toNat =
      (c.registers.get Register.pc).toNat + 2 := by
    rw [Core.next, get_put_self, UInt32.toNat_add, htwo, Nat.mod_eq_of_lt (by omega)]
  exact ⟨by omega, by omega⟩

end Confined

theorem even_mask (w : UInt32) : (w &&& ~~~1).toNat % 2 = 0 := by
  have hmask : (~~~1 : UInt32).toNat = 0xFFFFFFFE := rfl
  rw [UInt32.toNat_and, hmask]
  exact (Nat.and_mod_two_pow (n := 1)).trans (Nat.and_zero _)

theorem confined_jumpTo {target : UInt32} (h : c.jumpTo code target = .ok c') :
    Confined code c' := by
  simp only [jumpTo] at h
  split at h
  case isTrue => cases h
  case isFalse =>
    split at h
    case isTrue => cases h
    case isFalse hlt =>
      cases h
      refine ⟨?_, ?_⟩
      · rw [get_put_self]
        exact even_mask target
      · rw [get_put_self]
        exact Nat.le_of_not_le hlt

namespace Confined

/-- An instruction keeps the core confined, unless it halts it. -/
theorem execute {i : Instruction} (h : c.execute code i = .ok c') (hc : Confined code c) :
    Confined code c' := by
  have hi := executed code c i
  rw [h] at hi
  -- An instruction writes the program counter by a jump only.
  generalize hx : (.ok c' : Except Halt Core) = x at hi
  cases hi with
  | stays hpc =>
    cases hx
    exact hc.congr hpc
  | faults => cases hx
  | leaps | branches => exact confined_jumpTo hx.symm

theorem step (hsize : code.size < 2 ^ 31) (hc : Confined code c) (h : c.step code = .ok c') :
    Confined code c' := by
  simp only [Core.step] at h
  split at h
  case h_1 i hi =>
    obtain ⟨op, hf, -⟩ := Option.bind_eq_some_iff.mp hi
    exact (hc.next hsize hf).execute h
  case h_2 => cases h

/-- The cores of a run are confined if the first one is. -/
theorem after (hsize : code.size < 2 ^ 31) {n : Nat} (hc : Confined code c)
    (h : Core.after code n c = .ok c') : Confined code c' := by
  induction n generalizing c with
  | zero =>
    cases h
    exact hc
  | succ n ih =>
    obtain ⟨d, hstep, hafter⟩ := exists_of_bind_eq_ok h
    exact ih (hc.step hsize hstep) hafter

theorem start (code : Array UInt8) (arguments : Vector Int32 Arguments.codeCount) :
    Confined code (Core.start arguments) := by
  have hpc : (Core.start arguments).registers.get Register.pc = 0 :=
    (Vector.getElem_ofFn (by decide)).trans rfl
  exact ⟨by rw [hpc]; rfl, by rw [hpc]; exact Nat.zero_le _⟩

end Confined

/-! ## Steps that are watched -/

theorem safe_watchedRead (hsize : code.size < 2 ^ 31) (hc : Confined code c) (r : Register) :
    (c.watchedRead r).Safe size (.ok (c.read r)) := by
  rw [watchedRead, read]
  split
  case isTrue =>
    rw [sum, if_pos (hc.toNat_add hsize (by decide))]
    exact safe_done _
  case isFalse => exact safe_done _

/-- A value of a register is read for what comes next. -/
theorem safe_watchedRead_bind (hsize : code.size < 2 ^ 31) (hc : Confined code c) {r : Register}
    {next : UInt32 → Attempt Core} {rest : Except Halt Core}
    (h : (next (c.read r)).Safe size rest) : Safe size (c.watchedRead r >>= next) rest :=
  Guarded.Safe.bind (safe_watchedRead hsize hc r) h

/-- A watched instruction of a confined core is safe, and does what the instruction does. -/
theorem safe_watchedExecute (hsize : code.size < 2 ^ 31) (hc : Confined code c)
    (i : Instruction) :
    (c.watchedExecute code (c.registers.get Register.pc + 2) i).Safe size (c.execute code i) := by
  cases i with
  | shift kind target source amount =>
    exact Guarded.Safe.bind (kind.safe_watchedApply size _ _ _) (safe_done _)
  | operate operation target source =>
    cases operation with
    | shift kind => exact Guarded.Safe.bind (kind.safe_watchedApply size _ _ _) (safe_done _)
    | _ => exact safe_done _
  | addHigh target source | compareHigh target source =>
    refine safe_watchedRead_bind hsize hc (safe_watchedRead_bind hsize hc ?_)
    exact safe_done _
  | moveHigh target source | exchange source link =>
    refine safe_watchedRead_bind hsize hc ?_
    exact safe_done _
  | push registers link => exact safe_watchedStoreAll _ _ _
  | pop registers jump =>
    refine Safe.bind (safe_watchedLoadAll c _ registers) fun (d, address) _ => ?_
    cases jump with
    | false => exact safe_done _
    | true =>
      refine Safe.bind (safe_watchedLoad d address) fun target h => ?_
      exact safe_sum_bind (toNat_add_four_lt (within_of_load h)) (safe_done _)
  | add | sub | move | compare | adjustStack | hint | branchIf | branch => exact safe_done _

theorem step_eq_bind (code : Array UInt8) (c : Core) :
    c.step code = fetch code (c.registers.get Register.pc) >>= fun op =>
      match Instruction.decode op with
      | some i => c.next.execute code i
      | none => .error .fault := by
  rw [step, fetch]
  cases fetch? code (c.registers.get Register.pc) with
  | none => rfl
  | some op => rfl

theorem within_of_fetch (hc : Confined code c) {op : UInt16}
    (h : fetch code (c.registers.get Register.pc) = .ok op) :
    fetch? code (c.registers.get Register.pc) = some op ∧
      (Access.code (c.registers.get Register.pc)).Within code.size := by
  rw [fetch] at h
  cases hf : fetch? code (c.registers.get Register.pc) with
  | none =>
    rw [hf] at h
    cases h
  | some op' =>
    rw [hf] at h
    cases h
    exact ⟨rfl, hc.even, le_of_fetch? hf⟩

/-- A watched step of a confined core is safe, and does what the step does. -/
theorem safe_watchedStep (hsize : code.size < 2 ^ 31) (hc : Confined code c) :
    (c.watchedStep code).Safe code.size (c.step code) := by
  rw [step_eq_bind]
  refine Safe.bind (safe_touch fun op h => (within_of_fetch hc h).2) fun op h => ?_
  have hnext := hc.next hsize (within_of_fetch hc h).1
  refine safe_sum_bind (hc.toNat_add hsize (by decide)) ?_
  refine safe_sum_bind (hc.toNat_add hsize (by decide)) ?_
  cases Instruction.decode op with
  | none => exact safe_done _
  | some i =>
    rw [← get_pc_next_add]
    exact safe_watchedExecute hsize hnext i

/-! ## Calls that are watched -/

theorem store_of_slot? {address : UInt32} {i : Fin stackWords} (h : slot? address = some i)
    (value : UInt32) :
    c.store address value = .ok { c with stack := c.stack.set i.val value i.isLt } := by
  rw [store, h]

/-- The later four arguments go where a core has them at the beginning. -/
theorem storeAll_start (arguments : Vector Int32 Arguments.codeCount) :
    storeAll { start arguments with stack := Vector.replicate stackWords 0 }
      (stackBase + 4 * 252) ((arguments.toList.drop 4).map Int32.toUInt32) =
      .ok (start arguments) := by
  obtain ⟨⟨values⟩, hvalues⟩ := arguments
  match values, hvalues with
  | [a, b, c, d, e, f, g, h], hvalues =>
    have h0 : slot? (stackBase + 4 * 252) = some ⟨252, by decide⟩ := by decide
    have h1 : slot? (stackBase + 4 * 252 + 4) = some ⟨253, by decide⟩ := by decide
    have h2 : slot? (stackBase + 4 * 252 + 4 + 4) = some ⟨254, by decide⟩ := by decide
    have h3 : slot? (stackBase + 4 * 252 + 4 + 4 + 4) = some ⟨255, by decide⟩ := by decide
    have hstack : ((((Vector.replicate stackWords 0).set 252 e.toUInt32 (by decide)).set 253
        f.toUInt32 (by decide)).set 254 g.toUInt32 (by decide)).set 255 h.toUInt32 (by decide) =
        (start ⟨⟨[a, b, c, d, e, f, g, h]⟩, hvalues⟩).stack := by
      ext i hi
      simp only [start, Vector.getElem_set, Vector.getElem_ofFn, Vector.getElem_replicate]
      obtain hlt | rfl | rfl | rfl | rfl : i < 252 ∨ i = 252 ∨ i = 253 ∨ i = 254 ∨ i = 255 := by
        simp only [stackWords] at hi
        omega
      · rw [if_neg (by omega), if_neg (by omega), if_neg (by omega), if_neg (by omega),
          dif_neg (by omega)]
      all_goals rfl
    simp only [Vector.toList, List.drop, List.map, storeAll, store_of_slot? h0, store_of_slot? h1,
      store_of_slot? h2, store_of_slot? h3, bind, Except.bind, hstack]

theorem safe_watchedStart (arguments : Vector Int32 Arguments.codeCount) :
    (watchedStart arguments).Safe size (.ok (start arguments)) := by
  rw [← storeAll_start]
  exact safe_watchedStoreAll _ _ _

variable {cancelled : Nat → Bool}

/-- A watched run of a confined core is safe, and returns what the run returns. -/
theorem safe_watchedRun (hsize : code.size < 2 ^ 31) {budget count : Nat} (hc : Confined code c) :
    (watchedRun code cancelled budget count c).Safe code.size
      (run code cancelled budget count c) := by
  induction budget generalizing count c with
  | zero => exact Guarded.safe_pure _
  | succ budget ih =>
    rw [watchedRun, run]
    split
    case isTrue => exact Guarded.safe_pure _
    case isFalse =>
      refine Guarded.Safe.bind (safe_watchedStep hsize hc) ?_
      cases hstep : c.step code with
      | ok d => exact ih (hc.step hsize hstep)
      | error halt => cases halt <;> exact Guarded.safe_pure _

theorem safe_watchedInvoke {code : Bytes} (hsize : code.length < 2 ^ 31)
    (arguments : Vector Int32 Arguments.codeCount) (budget : Nat) :
    (watchedInvoke code arguments cancelled budget).Safe code.length
      (invoke code arguments cancelled budget) := by
  rw [watchedInvoke, invoke]
  split
  case isTrue =>
    exact Guarded.Safe.bind (safe_watchedStart arguments) (safe_watchedRun hsize (.start _ _))
  case isFalse => exact Guarded.safe_pure _

/-! ## Ends of runs -/

/-- How a run may end at a core, before instruction `n` or with it. -/
inductive Ending (code : Array UInt8) (cancelled : Nat → Bool) (budget n : Nat) (c : Core) :
    Except Status Int32 → Prop where
  /-- The budget is used up. -/
  | spent (h : n = budget) : Ending code cancelled budget n c (.error .execution)
  /-- The cancel flag is raised. -/
  | cancelled (hn : n < budget) (h : cancelled n = true) :
    Ending code cancelled budget n c (.error .timeout)
  /-- The code returns. -/
  | returned {value : UInt32} (hn : n < budget) (hc : cancelled n = false)
    (h : c.step code = .error (.returned value)) :
    Ending code cancelled budget n c (.ok value.toInt32)
  /-- The code does what it may not do. -/
  | faulted (hn : n < budget) (hc : cancelled n = false) (h : c.step code = .error .fault) :
    Ending code cancelled budget n c (.error .execution)

/-- A run ends at a core that it reaches within its budget without being cancelled before; the
first instruction is number `count`. -/
theorem exists_ending (code : Array UInt8) (cancelled : Nat → Bool) (budget count : Nat)
    (c : Core) :
    ∃ n ≤ budget, ∃ c', after code n c = .ok c' ∧ (∀ i < n, cancelled (count + i) = false) ∧
      Ending code cancelled (count + budget) (count + n) c' (run code cancelled budget count c) := by
  induction budget generalizing count c with
  | zero => exact ⟨0, Nat.le_refl 0, c, rfl, fun i hi => absurd hi (Nat.not_lt_zero i), .spent rfl⟩
  | succ budget ih =>
    rw [run]
    split
    case isTrue h =>
      exact ⟨0, Nat.zero_le _, c, rfl, fun i hi => absurd hi (Nat.not_lt_zero i),
        .cancelled (by omega) h⟩
    case isFalse h =>
      rw [Bool.not_eq_true] at h
      cases hstep : c.step code with
      | ok d =>
        obtain ⟨n, hn, c', hafter, hcancelled, hending⟩ := ih (count + 1) d
        refine ⟨n + 1, by omega, c', (after_succ hstep).trans hafter, fun i hi => ?_, ?_⟩
        · cases i with
          | zero => exact h
          | succ i =>
            rw [Nat.add_comm i, ← Nat.add_assoc]
            exact hcancelled i (by omega)
        · rw [Nat.add_comm budget, Nat.add_comm n, ← Nat.add_assoc, ← Nat.add_assoc]
          exact hending
      | error halt =>
        refine ⟨0, Nat.zero_le _, c, rfl, fun i hi => absurd hi (Nat.not_lt_zero i), ?_⟩
        cases halt with
        | returned value => exact .returned (by omega) h hstep
        | fault => exact .faulted (by omega) h hstep

/-! ## Together -/

/-- Code of even length runs inside itself and its stack, whatever it is, and whatever its
arguments, its budget and the cancel flag are. At every core that it reaches, the program counter
is even and at most the length of the code, and a watched step is safe : what it fetches is in the
code, what it uses of the stack are aligned words there, and no sum of addresses goes round. So the
watched call is safe, and it returns what the call returns. The call ends within its budget, with a
value, with a fault or because the budget is used up, or cancelled. That a register or a place on
the stack is one is in their types. -/
theorem invoke_stays_inside {code : Bytes} (hne : code ≠ []) (heven : code.length % 2 = 0)
    (hsize : code.length < 2 ^ 31) (arguments : Vector Int32 Arguments.codeCount)
    (cancelled : Nat → Bool) (budget : Nat) :
    (∀ n c, after code.toArray n (start arguments) = .ok c →
      (c.registers.get Register.pc).toNat % 2 = 0 ∧
      (c.registers.get Register.pc).toNat ≤ code.length ∧
      (c.watchedStep code.toArray).Safe code.length (c.step code.toArray)) ∧
    (watchedInvoke code arguments cancelled budget).Safe code.length
      (invoke code arguments cancelled budget) ∧
    ∃ n ≤ budget, ∃ c, after code.toArray n (start arguments) = .ok c ∧
      (∀ i < n, cancelled i = false) ∧
      Ending code.toArray cancelled budget n c (invoke code arguments cancelled budget) := by
  refine ⟨fun n c h => ?_, safe_watchedInvoke hsize arguments budget, ?_⟩
  · have hc : Confined code.toArray c := (Confined.start _ arguments).after hsize h
    exact ⟨hc.even, hc.le, safe_watchedStep hsize hc⟩
  · have haccepts : accepts code = true := by
      rw [accepts, heven, List.isEmpty_eq_false_iff.mpr hne]
      rfl
    obtain ⟨n, hn, c, hafter, hcancelled, hending⟩ :=
      exists_ending code.toArray cancelled budget 0 (start arguments)
    simp only [Nat.zero_add] at hcancelled hending
    rw [invoke, if_pos haccepts]
    exact ⟨n, hn, c, hafter, hcancelled, hending⟩

theorem invoke_stays_inside_of_push_pop :
    let code : Bytes := [0x01, 0xB5, 0x02, 0xBD]
    let arguments : Vector Int32 Arguments.codeCount := #v[7, 0, 0, 0, 0, 0, 0, 0]
    (watchedInvoke code arguments (fun _ => false) 2).Safe 4 (.ok 7) ∧
    ∃ n ≤ 2, ∃ c, after code.toArray n (start arguments) = .ok c ∧
      (c.registers.get Register.pc).toNat ≤ 4 ∧
      (c.watchedStep code.toArray).Safe 4 (c.step code.toArray) ∧
      Ending code.toArray (fun _ => false) 2 n c (.ok 7) := by
  intro code arguments
  have hinvoke : invoke code arguments (fun _ => false) 2 = .ok 7 := by
    have h : (invoke code arguments (fun _ => false) 2).toOption = some 7 := by decide +kernel
    revert h
    cases invoke code arguments (fun _ => false) 2 with
    | ok value => exact fun h => congrArg Except.ok (Option.some.inj h)
    | error status => exact fun h => by cases h
  obtain ⟨hreached, hsafe, n, hn, c, hafter, -, hending⟩ :=
    @invoke_stays_inside code (by decide) (by decide) (by decide) arguments (fun _ => false) 2
  rw [hinvoke] at hsafe hending
  obtain ⟨-, hle, hstep⟩ := hreached n c hafter
  exact ⟨hsafe, n, hn, c, hafter, hle, hstep, hending⟩

end Coprocessor.Thumb.Core
