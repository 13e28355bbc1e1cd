import Coprocessor.Proofs.Thumb.Flags
import Coprocessor.Thumb.Core

/-!
# Comparisons and long sums in code

A comparison is one of three half words for `CMP`, or a difference (`SUBS`), which also keeps its
result. Whatever the two words are, the conditions that hold after it are those that are true of
them, and a branch that comes next goes by them. A sum (`ADDS`) and then one with the carry
(`ADCS`) add up numbers of 64 bits that are kept in two registers each, and a difference and then
one with the borrow (`SBCS`) subtract them (`Core.compares_and_carries`).

Each kind of half word has a lemma that tells what it is decoded to, and one that tells what a step
with it does; what the flags then say is arithmetic.
-/

namespace Coprocessor.Thumb

/-! ## Registers -/

namespace Core

variable {code : Array UInt8} {c c' : Core}

theorem get_put (c : Core) (r r' : Register) (value : UInt32) :
    (c.put r value).registers.get r' = if r' = r then value else c.registers.get r' := by
  have h : (c.registers.set r.val value r.isLt)[r'.val] =
      if r.val = r'.val then value else c.registers[r'.val] := Vector.getElem_set r.isLt r'.isLt
  simp only [← Fin.ext_iff] at h
  simp only [eq_comm (a := r')]
  exact h

@[simp] theorem get_put_self (c : Core) (r : Register) (value : UInt32) :
    (c.put r value).registers.get r = value := by
  rw [get_put, if_pos rfl]

theorem get_put_of_ne {r r' : Register} (h : r' ≠ r) (value : UInt32) :
    (c.put r value).registers.get r' = c.registers.get r' := by
  rw [get_put, if_neg h]

end Core

theorem LowRegister.up_ne_pc (r : LowRegister) : r.up ≠ Register.pc := by
  revert r
  decide

theorem LowRegister.up_inj {r r' : LowRegister} : r.up = r'.up ↔ r = r' := by
  revert r r'
  decide

/-! ## Sums and differences -/

/-- What a sum or a difference is made of, and where it goes. -/
inductive Operands where
  /-- Two registers. -/
  | registers (target left right : LowRegister)
  /-- A register and a constant of three bits. -/
  | small (target left : LowRegister) (right : Fin 8)
  /-- The target and a constant of eight bits. -/
  | byte (target : LowRegister) (right : Fin 256)
  deriving DecidableEq, Repr

namespace Operands

/-- Where the result goes. -/
def target : Operands → LowRegister
  | registers target _ _ | small target _ _ | byte target _ => target

/-- The left value. -/
def left (c : Core) : Operands → UInt32
  | registers _ left _ | small _ left _ => c.registers.get left.up
  | byte target _ => c.registers.get target.up

/-- The right value. -/
def right (c : Core) : Operands → UInt32
  | registers _ _ right => c.registers.get right.up
  | small _ _ right => .ofNat right.val
  | byte _ right => .ofNat right.val

/-- The half word of the sum (`ADDS`). -/
def sumWord : Operands → UInt16
  | registers target left right =>
    .ofNat (0x1800 + 0x40 * right.val + 8 * left.val + target.val)
  | small target left right => .ofNat (0x1C00 + 0x40 * right.val + 8 * left.val + target.val)
  | byte target right => .ofNat (0x3000 + 0x100 * target.val + right.val)

/-- The half word of the difference (`SUBS`). -/
def differenceWord : Operands → UInt16
  | registers target left right =>
    .ofNat (0x1A00 + 0x40 * right.val + 8 * left.val + target.val)
  | small target left right => .ofNat (0x1E00 + 0x40 * right.val + 8 * left.val + target.val)
  | byte target right => .ofNat (0x3800 + 0x100 * target.val + right.val)

end Operands

/-- An instruction that compares two words. -/
inductive Comparison where
  /-- `CMP` of a lower register and a constant. -/
  | constant (left : LowRegister) (right : Fin 256)
  /-- `CMP` of two lower registers. -/
  | low (left right : LowRegister)
  /-- `CMP` of any registers but the program counter. -/
  | any (left right : Register) (hl : left ≠ Register.pc) (hr : right ≠ Register.pc)
  /-- `SUBS`. -/
  | difference (operands : Operands)

namespace Comparison

/-- The half word. -/
def halfWord : Comparison → UInt16
  | constant left right => .ofNat (0x2800 + 0x100 * left.val + right.val)
  | low left right => .ofNat (0x4280 + 8 * right.val + left.val)
  | any left right _ _ =>
    .ofNat (0x4500 + 0x80 * (left.val / 8) + 8 * right.val + left.val % 8)
  | difference operands => operands.differenceWord

/-- The left value. -/
def left (c : Core) : Comparison → UInt32
  | constant left _ => c.registers.get left.up
  | low left _ => c.registers.get left.up
  | any left _ _ _ => c.registers.get left
  | difference operands => operands.left c

/-- The right value. -/
def right (c : Core) : Comparison → UInt32
  | constant _ right => .ofNat right.val
  | low _ right => c.registers.get right.up
  | any _ right _ _ => c.registers.get right
  | difference operands => operands.right c

/-- Where the difference goes, if anywhere. -/
def target? : Comparison → Option LowRegister
  | difference operands => some operands.target
  | _ => none

end Comparison

/-- The half word that adds two lower registers and the carry to the first (`ADCS`). -/
def addCarryWord (target source : LowRegister) : UInt16 :=
  .ofNat (0x4140 + 8 * source.val + target.val)

/-- The half word that subtracts a lower register and the borrow from another (`SBCS`). -/
def subCarryWord (target source : LowRegister) : UInt16 :=
  .ofNat (0x4180 + 8 * source.val + target.val)

namespace Condition

/-- The code of a condition. -/
def code : Condition → Nat
  | .eq => 0x0
  | .ne => 0x1
  | .hs => 0x2
  | .lo => 0x3
  | .mi => 0x4
  | .pl => 0x5
  | .vs => 0x6
  | .vc => 0x7
  | .hi => 0x8
  | .ls => 0x9
  | .ge => 0xA
  | .lt => 0xB
  | .gt => 0xC
  | .le => 0xD

/-- The half word of a branch on a condition (`B`), with its lower byte. -/
def branchWord (condition : Condition) (offset : Fin 256) : UInt16 :=
  .ofNat (0xD000 + 0x100 * condition.code + offset.val)

end Condition

/-! ## What they stand for -/

open Instruction

theorem field_ofNat {n : Nat} (h : n < 2 ^ 16) (place width : Nat) :
    field (.ofNat n) place width = n / 2 ^ place % 2 ^ width := by
  rw [field, UInt16.toNat_ofNat_of_lt' h]
  rfl

/-- The four operations on a register and a constant of eight bits. -/
theorem decode_byte (k : Fin 4) (r : LowRegister) (value : Fin 256) :
    decode (.ofNat (0x2000 + 0x800 * k.val + 0x100 * r.val + value.val)) =
      some (match k with
        | 0 => .move r (.ofNat value.val)
        | 1 => .compare r (.ofNat value.val)
        | 2 => .add r r (.immediate (.ofNat value.val))
        | 3 => .sub r r (.immediate (.ofNat value.val))) := by
  have hn : 0x2000 + 0x800 * k.val + 0x100 * r.val + value.val < 2 ^ 16 := by omega
  generalize hop : UInt16.ofNat (0x2000 + 0x800 * k.val + 0x100 * r.val + value.val) = op
  have hfield (place width : Nat) : field op place width =
      (0x2000 + 0x800 * k.val + 0x100 * r.val + value.val) / 2 ^ place % 2 ^ width :=
    hop ▸ field_ofNat hn place width
  have hregister : low op 8 = r := Fin.ext ((hfield 8 3).trans (by omega))
  have hvalue : field op 0 8 = value.val := by
    rw [hfield]
    omega
  have hkind : field op 11 5 = 4 + k.val := by
    rw [hfield]
    omega
  have hchoice : field op 11 2 = k.val := by
    rw [hfield]
    omega
  have hfour : ∀ k : Fin 4, k = 0 ∨ k = 1 ∨ k = 2 ∨ k = 3 := by decide
  rw [decode, hkind]
  rcases hfour k with rfl | rfl | rfl | rfl
  all_goals
    simp only [readImmediate, hregister, hvalue, hchoice]
    rfl

/-- The sums and differences of a register and a register or a constant of three bits. -/
theorem decode_addSub (i s : Fin 2) (r : Fin 8) (l t : LowRegister) :
    decode (.ofNat (0x1800 + 0x400 * i.val + 0x200 * s.val + 0x40 * r.val + 8 * l.val + t.val)) =
      some (
        let right := if i = 1 then Source.immediate (.ofNat r.val) else .register r
        if s = 1 then .sub t l right else .add t l right) := by
  have hn : 0x1800 + 0x400 * i.val + 0x200 * s.val + 0x40 * r.val + 8 * l.val + t.val < 2 ^ 16 := by
    omega
  generalize hop : UInt16.ofNat
    (0x1800 + 0x400 * i.val + 0x200 * s.val + 0x40 * r.val + 8 * l.val + t.val) = op
  have hfield (place width : Nat) : field op place width =
      (0x1800 + 0x400 * i.val + 0x200 * s.val + 0x40 * r.val + 8 * l.val + t.val) /
        2 ^ place % 2 ^ width := hop ▸ field_ofNat hn place width
  have ht : low op 0 = t := Fin.ext ((hfield 0 3).trans (by omega))
  have hl : low op 3 = l := Fin.ext ((hfield 3 3).trans (by omega))
  have hr : low op 6 = r := Fin.ext ((hfield 6 3).trans (by omega))
  have hvalue : field op 6 3 = r.val := congrArg Fin.val hr
  have hkind : field op 11 5 = 3 := by
    rw [hfield]
    omega
  have hi : field op 10 1 = i.val := by
    rw [hfield]
    omega
  have hs : field op 9 1 = s.val := by
    rw [hfield]
    omega
  rw [decode, hkind]
  simp only [readAddSub, ht, hl, hr, hvalue, hi, hs]
  have htwo : ∀ k : Fin 2, k = 0 ∨ k = 1 := by decide
  rcases htwo i with rfl | rfl <;> rcases htwo s with rfl | rfl <;> rfl

theorem decode_branchWord (condition : Condition) (offset : Fin 256) :
    decode (condition.branchWord offset) =
      some (.branchIf condition (branchOffset (.ofNat offset.val) 8)) := by
  have hcode : Condition.ofCode? condition.code = some condition := by cases condition <;> rfl
  have hlt : condition.code < 14 := by cases condition <;> decide
  have hn : 0xD000 + 0x100 * condition.code + offset.val < 2 ^ 16 := by omega
  generalize hop : condition.branchWord offset = op
  have hfield (place width : Nat) : field op place width =
      (0xD000 + 0x100 * condition.code + offset.val) / 2 ^ place % 2 ^ width :=
    hop ▸ field_ofNat hn place width
  have hchoice : field op 8 4 = condition.code := by
    rw [hfield]
    omega
  have hoffset : branchOffset op 8 = branchOffset (.ofNat offset.val) 8 := by
    have hsame : field op 0 8 = field (.ofNat offset.val) 0 8 := by
      rw [hfield, field_ofNat (by omega)]
      omega
    simp only [branchOffset, hsame]
  have hkind : field op 11 5 = 26 ∨ field op 11 5 = 27 := by
    rw [hfield]
    omega
  rw [decode]
  rcases hkind with hkind | hkind <;> simp only [hkind, hchoice, hcode, hoffset, Option.map_some]

/-- The operations on two lower registers, in the order of their codes. -/
theorem decode_operate (k : Fin 16) (target source : LowRegister) :
    decode (.ofNat (0x4000 + 0x40 * k.val + 8 * source.val + target.val)) =
      some (.operate (Operation.all.get k) target source) := by
  have hn : 0x4000 + 0x40 * k.val + 8 * source.val + target.val < 2 ^ 16 := by omega
  generalize hop : UInt16.ofNat (0x4000 + 0x40 * k.val + 8 * source.val + target.val) = op
  have hfield (place width : Nat) : field op place width =
      (0x4000 + 0x40 * k.val + 8 * source.val + target.val) / 2 ^ place % 2 ^ width :=
    hop ▸ field_ofNat hn place width
  have htarget : low op 0 = target := Fin.ext ((hfield 0 3).trans (by omega))
  have hsource : low op 3 = source := Fin.ext ((hfield 3 3).trans (by omega))
  have hkind : field op 11 5 = 8 := by
    rw [hfield]
    omega
  have hlower : field op 10 1 = 0 := by
    rw [hfield]
    omega
  have hchoice : field op 6 4 = k.val := by
    rw [hfield]
    omega
  have hoperation : Operation.all[k.val]? = some (Operation.all.get k) :=
    List.getElem?_eq_getElem k.isLt
  rw [decode, hkind]
  simp only [hlower, hchoice, hoperation, htarget, hsource, if_true, Option.map_some]

theorem decode_low (l r : LowRegister) :
    decode (Comparison.low l r).halfWord = some (.operate .compare l r) :=
  decode_operate 10 l r

theorem decode_any (l r : Register) (hl : l ≠ Register.pc) (hr : r ≠ Register.pc) :
    decode (Comparison.any l r hl hr).halfWord = some (.compareHigh l r) := by
  revert l r
  decide +kernel

theorem decode_addCarryWord (t s : LowRegister) :
    decode (addCarryWord t s) = some (.operate .addCarry t s) :=
  decode_operate 5 t s

theorem decode_subCarryWord (t s : LowRegister) :
    decode (subCarryWord t s) = some (.operate .subCarry t s) :=
  decode_operate 6 t s

/-- The right value of a sum or a difference, as an instruction has it. -/
def Operands.source : Operands → Source
  | registers _ _ right => .register right
  | small _ _ right => .immediate (.ofNat right.val)
  | byte _ right => .immediate (.ofNat right.val)

/-- The register of the left value. -/
def Operands.leftRegister : Operands → LowRegister
  | registers _ left _ | small _ left _ => left
  | byte target _ => target

theorem decode_sumWord (o : Operands) :
    decode o.sumWord = some (.add o.target o.leftRegister o.source) := by
  cases o with
  | registers t l r => exact decode_addSub 0 0 r l t
  | small t l r => exact decode_addSub 1 0 r l t
  | byte t r => exact decode_byte 2 t r

theorem decode_differenceWord (o : Operands) :
    decode o.differenceWord = some (.sub o.target o.leftRegister o.source) := by
  cases o with
  | registers t l r => exact decode_addSub 0 1 r l t
  | small t l r => exact decode_addSub 1 1 r l t
  | byte t r => exact decode_byte 3 t r

/-! ## Steps -/

namespace Core

variable {code : Array UInt8} {c : Core}

/-- The core at the next instruction. -/
def next (c : Core) : Core :=
  c.put .pc (c.registers.get Register.pc + 2)

theorem step_of_decode {op : UInt16} {i : Instruction}
    (hf : fetch? code (c.registers.get Register.pc) = some op) (hi : decode op = some i) :
    step code c = c.next.execute code i := by
  simp only [step, hf, Option.bind_some, hi, next]

@[simp] theorem get_next_up (c : Core) (r : LowRegister) :
    c.next.registers.get r.up = c.registers.get r.up :=
  get_put_of_ne r.up_ne_pc _

theorem get_next_of_ne {r : Register} (h : r ≠ Register.pc) :
    c.next.registers.get r = c.registers.get r :=
  get_put_of_ne h _

/-- A sum goes to its target, and its flags are set. -/
theorem step_sumWord {o : Operands}
    (hf : fetch? code (c.registers.get Register.pc) = some o.sumWord) :
    step code c = .ok (c.next.putFlagged o.target.up (addFlags (o.left c) (o.right c) false)) := by
  rw [step_of_decode hf (decode_sumWord o), execute]
  cases o <;>
    simp only [Operands.leftRegister, Operands.source, Operands.left, Operands.right, eval,
      get_next_up]

/-- A difference goes to its target, and its flags are set. -/
theorem step_differenceWord {o : Operands}
    (hf : fetch? code (c.registers.get Register.pc) = some o.differenceWord) :
    step code c = .ok (c.next.putFlagged o.target.up (subFlags (o.left c) (o.right c))) := by
  rw [step_of_decode hf (decode_differenceWord o), execute]
  cases o <;>
    simp only [Operands.leftRegister, Operands.source, Operands.left, Operands.right, eval,
      get_next_up]

/-- The core after a comparison. -/
def compared (c : Core) (comparison : Comparison) : Core :=
  let result := subFlags (comparison.left c) (comparison.right c)
  match comparison.target? with
  | some target => c.next.putFlagged target.up result
  | none => { c.next with flags := result.2 }

theorem step_comparison {comparison : Comparison}
    (hf : fetch? code (c.registers.get Register.pc) = some comparison.halfWord) :
    step code c = .ok (c.compared comparison) := by
  cases comparison with
  | constant l r =>
    rw [step_of_decode hf (decode_byte 1 l r), execute, get_next_up]
    rfl
  | low l r =>
    rw [step_of_decode hf (decode_low l r), execute, operate, get_next_up, get_next_up]
    rfl
  | any l r hl hr =>
    rw [step_of_decode hf (decode_any l r hl hr), execute, read, read, if_neg hl, if_neg hr,
      get_next_of_ne hl, get_next_of_ne hr]
    rfl
  | difference o => exact step_differenceWord hf

theorem get_pc_putFlagged (c : Core) (r : LowRegister) (result : UInt32 × Flags) :
    (c.next.putFlagged r.up result).registers.get Register.pc =
      c.registers.get Register.pc + 2 :=
  (get_put_of_ne r.up_ne_pc.symm _).trans (get_put_self c _ _)

theorem get_pc_compared (c : Core) (comparison : Comparison) :
    (c.compared comparison).registers.get Register.pc = c.registers.get Register.pc + 2 := by
  rw [compared]
  cases comparison.target? with
  | none => exact get_put_self c _ _
  | some target => exact get_pc_putFlagged c target _

theorem flags_compared (c : Core) (comparison : Comparison) :
    (c.compared comparison).flags = (subFlags (comparison.left c) (comparison.right c)).2 := by
  rw [compared]
  cases comparison.target? <;> rfl

theorem get_target_compared {comparison : Comparison} {target : LowRegister}
    (h : comparison.target? = some target) :
    (c.compared comparison).registers.get target.up = comparison.left c - comparison.right c := by
  rw [compared, h, ← fst_subFlags]
  exact get_put_self _ _ _

/-- An instruction sees the program counter four bytes ahead of itself. -/
theorem get_pc_next_add (c : Core) :
    c.next.registers.get Register.pc + 2 = c.registers.get Register.pc + 4 := by
  rw [next, get_put_self, UInt32.add_assoc]
  rfl

/-- A branch on a condition jumps if the condition holds. -/
theorem step_branchWord {condition : Condition} {offset : Fin 256}
    (hf : fetch? code (c.registers.get Register.pc) = some (condition.branchWord offset)) :
    step code c = if condition.holds c.flags then
      c.next.jumpTo code (c.registers.get Register.pc + 4 + branchOffset (.ofNat offset.val) 8)
    else .ok c.next := by
  rw [step_of_decode hf (decode_branchWord condition offset), execute, get_pc_next_add]
  rfl

theorem step_addCarryWord {target source : LowRegister}
    (hf : fetch? code (c.registers.get Register.pc) = some (addCarryWord target source)) :
    step code c = .ok (c.next.putFlagged target.up (addFlags (c.registers.get target.up)
      (c.registers.get source.up) c.flags.carry)) := by
  rw [step_of_decode hf (decode_addCarryWord target source), execute, operate, get_next_up,
    get_next_up]
  rfl

theorem step_subCarryWord {target source : LowRegister}
    (hf : fetch? code (c.registers.get Register.pc) = some (subCarryWord target source)) :
    step code c = .ok (c.next.putFlagged target.up (addFlags (c.registers.get target.up)
      (~~~(c.registers.get source.up)) c.flags.carry)) := by
  rw [step_of_decode hf (decode_subCarryWord target source), execute, operate, get_next_up,
    get_next_up]
  rfl

/-! ## Long sums -/

/-- The core after a number of instructions, if none of them ends the run. -/
def after (code : Array UInt8) : Nat → Core → Except Halt Core
  | 0, c => .ok c
  | n + 1, c => do (← c.step code).after code n

theorem after_succ {c' : Core} {n : Nat} (h : step code c = .ok c') :
    after code (n + 1) c = after code n c' := by
  rw [after, h]
  rfl

/-- Two results in different registers, the second one last. -/
theorem get_putFlagged_putFlagged {low high : LowRegister} (h : low ≠ high)
    (s s' : UInt32 × Flags) :
    let c' := (c.next.putFlagged low.up s).next.putFlagged high.up s'
    c'.registers.get high.up = s'.1 ∧ c'.registers.get low.up = s.1 := by
  have hne : low.up ≠ high.up := mt LowRegister.up_inj.mp h
  refine ⟨get_put_self _ _ _, ?_⟩
  exact (get_put_of_ne hne _).trans ((get_next_up _ low).trans (get_put_self _ _ _))

theorem get_putFlagged_of_ne {r target : LowRegister} (h : target ≠ r) (s : UInt32 × Flags) :
    (c.next.putFlagged target.up s).registers.get r.up = c.registers.get r.up :=
  (get_put_of_ne (mt LowRegister.up_inj.mp h.symm) _).trans (get_next_up c r)

section

variable {o : Operands} {high right : LowRegister} {x y : UInt64}
  (hhigh : o.target ≠ high) (hright : o.target ≠ right)
  (hx : joined (c.registers.get high.up) (o.left c) = x.toNat)
  (hy : joined (c.registers.get right.up) (o.right c) = y.toNat)

include hhigh hright hx hy

/-- A sum and one with its carry leave the sum of two numbers of 64 bits. -/
theorem after_sumWord (hf : fetch? code (c.registers.get Register.pc) = some o.sumWord)
    (hf' : fetch? code (c.registers.get Register.pc + 2) = some (addCarryWord high right)) :
    ∃ c', after code 2 c = .ok c' ∧
      joined (c'.registers.get high.up) (c'.registers.get o.target.up) = (x + y).toNat ∧
      (c'.flags.carry = true ↔ 2 ^ 64 ≤ x.toNat + y.toNat) := by
  let s := addFlags (o.left c) (o.right c) false
  have hstep : step code c = .ok (c.next.putFlagged o.target.up s) := step_sumWord hf
  rw [← get_pc_putFlagged c o.target s] at hf'
  have hstep' := step_addCarryWord hf'
  rw [get_putFlagged_of_ne hhigh, get_putFlagged_of_ne hright] at hstep'
  refine ⟨_, (after_succ hstep).trans (after_succ hstep'), ?_⟩
  obtain ⟨htop, hlow⟩ := get_putFlagged_putFlagged hhigh s _
  rw [htop, hlow, UInt64.toNat_add, ← hx, ← hy]
  exact joined_addFlags _ _ _ _ false

/-- A difference and one with its borrow leave the difference of two numbers of 64 bits. -/
theorem after_differenceWord
    (hf : fetch? code (c.registers.get Register.pc) = some o.differenceWord)
    (hf' : fetch? code (c.registers.get Register.pc + 2) = some (subCarryWord high right)) :
    ∃ c', after code 2 c = .ok c' ∧
      joined (c'.registers.get high.up) (c'.registers.get o.target.up) = (x - y).toNat ∧
      (c'.flags.carry = true ↔ y ≤ x) := by
  let s := subFlags (o.left c) (o.right c)
  have hstep : step code c = .ok (c.next.putFlagged o.target.up s) := step_differenceWord hf
  rw [← get_pc_putFlagged c o.target s] at hf'
  have hstep' := step_subCarryWord hf'
  rw [get_putFlagged_of_ne hhigh, get_putFlagged_of_ne hright] at hstep'
  refine ⟨_, (after_succ hstep).trans (after_succ hstep'), ?_⟩
  obtain ⟨htop, hlow⟩ := get_putFlagged_putFlagged hhigh s _
  rw [htop, hlow, UInt64.toNat_sub, UInt64.le_iff_toNat_le, ← hx, ← hy]
  exact joined_subFlags _ _ _ _

end

/-! ## Together -/

/-- After a comparison in any of its encodings every condition holds that says something true
of the two words, and a branch that follows goes by it. A sum of the lower words and then one of
the higher words with the carry add up numbers of 64 bits, and a difference and then one with
the borrow subtract them; the carry that is left is theirs. -/
theorem compares_and_carries (code : Array UInt8) (c : Core) :
    (∀ comparison : Comparison,
      fetch? code (c.registers.get Register.pc) = some comparison.halfWord →
      ∃ c', step code c = .ok c' ∧
        (∀ condition : Condition, condition.holds c'.flags = true ↔
          condition.Relates (comparison.left c) (comparison.right c)) ∧
        (∀ target, comparison.target? = some target →
          c'.registers.get target.up = comparison.left c - comparison.right c) ∧
        ∀ (condition : Condition) (offset : Fin 256),
          fetch? code (c.registers.get Register.pc + 2) = some (condition.branchWord offset) →
          (condition.Relates (comparison.left c) (comparison.right c) → step code c' =
            c'.next.jumpTo code
              (c.registers.get Register.pc + 6 + branchOffset (.ofNat offset.val) 8)) ∧
          (¬condition.Relates (comparison.left c) (comparison.right c) →
            step code c' = .ok c'.next)) ∧
    ∀ (o : Operands) (high right : LowRegister) (x y : UInt64), o.target ≠ high →
      o.target ≠ right → joined (c.registers.get high.up) (o.left c) = x.toNat →
      joined (c.registers.get right.up) (o.right c) = y.toNat →
      (fetch? code (c.registers.get Register.pc) = some o.sumWord →
        fetch? code (c.registers.get Register.pc + 2) = some (addCarryWord high right) →
        ∃ c', after code 2 c = .ok c' ∧
          joined (c'.registers.get high.up) (c'.registers.get o.target.up) = (x + y).toNat ∧
          (c'.flags.carry = true ↔ 2 ^ 64 ≤ x.toNat + y.toNat)) ∧
      (fetch? code (c.registers.get Register.pc) = some o.differenceWord →
        fetch? code (c.registers.get Register.pc + 2) = some (subCarryWord high right) →
        ∃ c', after code 2 c = .ok c' ∧
          joined (c'.registers.get high.up) (c'.registers.get o.target.up) = (x - y).toNat ∧
          (c'.flags.carry = true ↔ y ≤ x)) := by
  refine ⟨fun comparison hf => ?_, fun o high right x y hhigh hright hx hy =>
    ⟨after_sumWord hhigh hright hx hy, after_differenceWord hhigh hright hx hy⟩⟩
  have hflags := flags_compared c comparison
  refine ⟨c.compared comparison, step_comparison hf, fun condition => ?_,
    fun target => get_target_compared, fun condition offset hf' => ?_⟩
  · rw [hflags, condition.holds_subFlags_iff]
  · rw [← get_pc_compared c comparison] at hf'
    have hpc : (c.compared comparison).registers.get Register.pc + 4 =
        c.registers.get Register.pc + 6 := by
      rw [get_pc_compared, UInt32.add_assoc]
      rfl
    rw [step_branchWord hf', hpc, hflags, ← condition.holds_subFlags_iff]
    exact ⟨fun h => if_pos h, fun h => if_neg h⟩

theorem compares_and_carries_of_minus_one :
    let c := start #v[-1, -1, 1, 0, 0, 0, 0, 0]
    (∃ c', step #[0x90, 0x42] c = .ok c' ∧ Condition.lt.holds c'.flags = true ∧
      Condition.hi.holds c'.flags = true) ∧
    (∃ c', after #[0x80, 0x18, 0x59, 0x41] 2 c = .ok c' ∧
      joined (c'.registers.get 1) (c'.registers.get 0) = 0 ∧ c'.flags.carry = true) ∧
    ∃ c', after #[0x80, 0x1A, 0x99, 0x41] 2 c = .ok c' ∧
      joined (c'.registers.get 1) (c'.registers.get 0) = 2 ^ 64 - 2 ∧ c'.flags.carry = true := by
  intro c
  refine ⟨?_, ?_, ?_⟩
  · obtain ⟨c', hstep, hholds, -⟩ :=
      (compares_and_carries #[0x90, 0x42] c).1 (.low 0 2) (by decide +kernel)
    exact ⟨c', hstep, (hholds .lt).mpr (by decide +kernel), (hholds .hi).mpr (by decide +kernel)⟩
  · obtain ⟨c', hafter, hjoined, hcarry⟩ := ((compares_and_carries #[0x80, 0x18, 0x59, 0x41] c).2
      (.registers 0 0 2) 1 3 0xFFFFFFFFFFFFFFFF 1 (by decide) (by decide) (by decide +kernel)
      (by decide +kernel)).1 (by decide +kernel) (by decide +kernel)
    exact ⟨c', hafter, hjoined.trans (by decide +kernel), hcarry.mpr (by decide +kernel)⟩
  · obtain ⟨c', hafter, hjoined, hcarry⟩ := ((compares_and_carries #[0x80, 0x1A, 0x99, 0x41] c).2
      (.registers 0 0 2) 1 3 0xFFFFFFFFFFFFFFFF 1 (by decide) (by decide) (by decide +kernel)
      (by decide +kernel)).2 (by decide +kernel) (by decide +kernel)
    exact ⟨c', hafter, hjoined.trans (by decide +kernel), hcarry.mpr (by decide +kernel)⟩

end Core

end Coprocessor.Thumb
