import Coprocessor.Proofs.Thumb.Comparison

/-!
# Jumps

An instruction jumps to an address that it takes from registers or from the stack (`Core.Leaps`),
or by an offset of its own if its condition holds (`Instruction.takenOffset?`). All other
instructions stay : the program counter is left alone, or there is a fault. `Core.executed` says
that there is no other way to go on or to end, so a value is returned by jumps only.
-/

namespace Coprocessor.Thumb

/-- The offset by which an instruction jumps with these flags, if it is a branch that is taken. -/
def Instruction.takenOffset? (flags : Flags) : Instruction → Option UInt32
  | .branchIf condition offset => if condition.holds flags then some offset else none
  | .branch offset => some offset
  | _ => none

namespace Core

variable {code : Array UInt8} {c c' : Core} {i : Instruction}

theorem exists_of_bind_eq_ok {α β : Type} {x : Except Halt α} {next : α → Except Halt β} {b : β}
    (h : (x >>= next) = .ok b) : ∃ a, x = .ok a ∧ next a = .ok b := by
  cases x with
  | ok a => exact ⟨a, rfl, h⟩
  | error halt => cases h

theorem exists_of_isOk {α : Type} {x : Except Halt α} (h : x.isOk = true) : ∃ a, x = .ok a := by
  cases x with
  | ok a => exact ⟨a, rfl⟩
  | error halt => cases h

/-! ## The stack -/

theorem registers_store {address value : UInt32} (h : c.store address value = .ok c') :
    c'.registers = c.registers := by
  unfold store at h
  split at h
  case h_1 =>
    cases h
    rfl
  case h_2 => cases h

theorem registers_storeAll {address : UInt32} {values : List UInt32}
    (h : c.storeAll address values = .ok c') : c'.registers = c.registers := by
  induction values generalizing c address with
  | nil =>
    cases h
    rfl
  | cons value rest ih =>
    obtain ⟨d, hstore, hrest⟩ := exists_of_bind_eq_ok h
    exact (ih hrest).trans (registers_store hstore)

theorem get_pc_loadAll {address address' : UInt32} {registers : List LowRegister}
    (h : c.loadAll address registers = .ok (c', address')) :
    c'.registers.get Register.pc = c.registers.get Register.pc := by
  induction registers generalizing c address with
  | nil =>
    cases h
    rfl
  | cons r rest ih =>
    obtain ⟨value, -, hrest⟩ := exists_of_bind_eq_ok h
    exact (ih hrest).trans (get_put_of_ne r.up_ne_pc.symm value)

/-- What is not on the stack is a fault. -/
theorem load_eq_ok_or_fault (c : Core) (address : UInt32) :
    (∃ value, c.load address = .ok value) ∨ c.load address = .error .fault := by
  unfold load
  split
  case h_1 i => exact .inl ⟨_, rfl⟩
  case h_2 => exact .inr rfl

theorem loadAll_eq_ok_or_fault (c : Core) (address : UInt32) (registers : List LowRegister) :
    (∃ d address', c.loadAll address registers = .ok (d, address')) ∨
      c.loadAll address registers = .error .fault := by
  induction registers generalizing c address with
  | nil => exact .inl ⟨c, address, rfl⟩
  | cons r rest ih =>
    rw [loadAll]
    rcases c.load_eq_ok_or_fault address with ⟨value, h⟩ | h
    · rw [h]
      exact ih _ _
    · rw [h]
      exact .inr rfl

theorem storeAll_eq_ok_or_fault (c : Core) (address : UInt32) (values : List UInt32) :
    (∃ d, c.storeAll address values = .ok d) ∨ c.storeAll address values = .error .fault := by
  induction values generalizing c address with
  | nil => exact .inl ⟨c, rfl⟩
  | cons value rest ih =>
    rw [storeAll, store]
    split
    case h_1 => exact ih _ _
    case h_2 => exact .inr rfl

/-! ## What an instruction does -/

/-- An instruction jumps through a register or the stack. The core that jumps is what the
instruction has made of the core before it does. -/
inductive Leaps (c : Core) : Instruction → Core → UInt32 → Prop
  /-- Jumps to the address in a register. -/
  | exchange (source : Register) : Leaps c (.exchange source false) c (c.read source)
  /-- Links, and jumps to the address in a register. -/
  | exchangeLink (source : Register) : Leaps c (.exchange source true)
      (c.put .lr (c.registers.get Register.pc ||| 1)) (c.read source)
  /-- Copies a register to the program counter. -/
  | move (source : Register) : Leaps c (.moveHigh .pc source) c (c.read source)
  /-- Adds a register to the program counter. -/
  | add (source : Register) : Leaps c (.addHigh .pc source) c (c.read .pc + c.read source)
  /-- Takes registers off the stack, and the program counter as the last one. -/
  | pop {registers : List LowRegister} {d : Core} {address target : UInt32}
      (hload : c.loadAll (c.registers.get Register.sp) registers = .ok (d, address))
      (htarget : d.load address = .ok target) :
      Leaps c (.pop registers true) (d.put .sp (address + 4)) target

theorem execute_of_leaps {d : Core} {target : UInt32} (h : c.Leaps i d target) :
    c.execute code i = d.jumpTo code target := by
  cases h with
  | exchange | exchangeLink | move | add => rfl
  | pop hload htarget =>
    rw [execute, hload]
    exact congrArg (· >>= fun target => jumpTo code target _) htarget

theorem execute_of_takenOffset? {offset : UInt32} (h : i.takenOffset? c.flags = some offset) :
    c.execute code i = c.jumpTo code (c.registers.get Register.pc + 2 + offset) := by
  cases i with
  | branchIf condition o =>
    obtain ⟨hholds, rfl⟩ : condition.holds c.flags = true ∧ o = offset := by
      simpa [Instruction.takenOffset?] using h
    rw [execute, if_pos hholds]
  | branch o =>
    obtain rfl : o = offset := Option.some.inj h
    rfl
  | _ => cases h

/-- What an instruction may come to. -/
inductive Executed (code : Array UInt8) (c : Core) (i : Instruction) : Except Halt Core → Prop
  | stays {c' : Core} (h : c'.registers.get Register.pc = c.registers.get Register.pc) :
    Executed code c i (.ok c')
  | faults : Executed code c i (.error .fault)
  | leaps {d : Core} {target : UInt32} (h : c.Leaps i d target) :
    Executed code c i (d.jumpTo code target)
  | branches {offset : UInt32} (h : i.takenOffset? c.flags = some offset) :
    Executed code c i (c.jumpTo code (c.registers.get Register.pc + 2 + offset))

/-- An operation writes no register but its target. -/
theorem get_pc_operate (c : Core) (operation : Operation) (target : LowRegister) (a b : UInt32) :
    (c.operate operation target.up a b).registers.get Register.pc =
      c.registers.get Register.pc := by
  cases operation with
  | test | compare | compareNegative => rfl
  | and | xor | shift | addCarry | subCarry | negate | or | multiply | clear | complement =>
    exact get_put_of_ne target.up_ne_pc.symm _

theorem executed (code : Array UInt8) (c : Core) (i : Instruction) :
    Executed code c i (c.execute code i) := by
  cases i with
  | shift | add | sub | move => exact .stays (get_put_of_ne (LowRegister.up_ne_pc _).symm _)
  | compare | compareHigh | hint => exact .stays rfl
  | operate operation target source => exact .stays (c.get_pc_operate operation target _ _)
  | addHigh target source =>
    by_cases h : target = .pc
    · subst h
      exact .leaps (.add source)
    · rw [execute, if_neg h]
      exact .stays (get_put_of_ne (Ne.symm h) _)
  | moveHigh target source =>
    by_cases h : target = .pc
    · subst h
      exact .leaps (.move source)
    · rw [execute, if_neg h]
      exact .stays (get_put_of_ne (Ne.symm h) _)
  | exchange source link =>
    cases link with
    | false => exact .leaps (.exchange source)
    | true => exact .leaps (.exchangeLink source)
  | adjustStack => exact .stays (get_put_of_ne (by decide) _)
  | push registers link =>
    rw [execute, push]
    generalize hvalues : (if link then _ else _ : List UInt32) = values
    rcases storeAll_eq_ok_or_fault _ _ values with ⟨d, h⟩ | h
    · rw [h]
      refine .stays ?_
      rw [registers_storeAll h]
      exact get_put_of_ne (by decide) _
    · rw [h]
      exact .faults
  | pop registers jump =>
    rw [execute]
    rcases c.loadAll_eq_ok_or_fault (c.registers.get Register.sp) registers with
      ⟨d, address, hload⟩ | hload
    · cases jump with
      | false =>
        rw [hload]
        exact .stays ((get_put_of_ne (by decide) _).trans (get_pc_loadAll hload))
      | true =>
        rcases d.load_eq_ok_or_fault address with ⟨target, htarget⟩ | hfault
        · have hjump : c.execute code _ = _ := execute_of_leaps (.pop hload htarget)
          rw [execute] at hjump
          rw [hjump]
          exact .leaps (.pop hload htarget)
        · rw [hload]
          simp only [bind, Except.bind, hfault]
          exact .faults
    · rw [hload]
      exact .faults
  | branchIf condition offset =>
    by_cases h : condition.holds c.flags = true
    · rw [execute, if_pos h]
      exact .branches (if_pos h)
    · rw [execute, if_neg h]
      exact .stays rfl
  | branch offset => exact .branches rfl

/-! ## Where a jump goes -/

/-- A jump goes to an even address inside the code, returns from the return address, or faults. -/
theorem jumpTo_eq (code : Array UInt8) (target : UInt32) (c : Core) :
    c.jumpTo code target =
      if target &&& ~~~1 = returnAddress then .error (.returned (c.registers.get Register.first))
      else if code.size ≤ (target &&& ~~~1).toNat then .error .fault
      else .ok (c.put .pc (target &&& ~~~1)) :=
  rfl

/-- Only a jump to the return address returns a value, and it is the one in register zero. -/
theorem jumpTo_eq_returned_iff {target value : UInt32} :
    c.jumpTo code target = .error (.returned value) ↔
      target &&& ~~~1 = returnAddress ∧ c.registers.get Register.first = value := by
  rw [jumpTo_eq]
  by_cases h : target &&& ~~~1 = returnAddress
  · simp [h]
  · rw [if_neg h]
    split <;> simp [h]

/-- Only jumps to the return address return a value. -/
theorem execute_eq_returned_iff {value : UInt32} :
    c.execute code i = .error (.returned value) ↔
      (∃ d target, c.Leaps i d target ∧ target &&& ~~~1 = returnAddress ∧
        d.registers.get Register.first = value) ∨
      ∃ offset, i.takenOffset? c.flags = some offset ∧
        (c.registers.get Register.pc + 2 + offset) &&& ~~~1 = returnAddress ∧
        c.registers.get Register.first = value := by
  constructor
  case mp =>
    intro h
    have hi := executed code c i
    generalize hx : c.execute code i = x at hi
    rw [hx] at h
    cases hi with
    | stays | faults => cases h
    | leaps hleaps => exact .inl ⟨_, _, hleaps, jumpTo_eq_returned_iff.mp h⟩
    | branches hbranch => exact .inr ⟨_, hbranch, jumpTo_eq_returned_iff.mp h⟩
  case mpr =>
    rintro (⟨d, target, hleaps, h⟩ | ⟨offset, hbranch, h⟩)
    · exact (execute_of_leaps hleaps).trans (jumpTo_eq_returned_iff.mpr h)
    · exact (execute_of_takenOffset? hbranch).trans (jumpTo_eq_returned_iff.mpr h)

end Core

end Coprocessor.Thumb
