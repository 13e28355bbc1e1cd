import Coprocessor.Proofs.Thumb.Comparison
import Coprocessor.Proofs.Thumb.Guarded
import Mathlib.Algebra.Order.Ring.Int

/-!
# Shifts in numbers

A shift to the left multiplies by a power of two and keeps what fits into a word. A logical shift
to the right divides, an arithmetic one divides the number in two's complement and rounds down, a
rotation puts the bits that leave at the lower end in front (`Thumb.Shift.Moves`). The carry is the
bit that left last (`Thumb.Shift.IsSetLast`), after a rotation the highest bit of the result.
Nothing of this has an exception at the width of the word or beyond it; a shift by zero keeps the
carry.

A shift by a constant stands for one of 1 to 32, or of 0 to 31 to the left, and a shift by a
register goes by its lower byte (`Thumb.Core.shifts_in_numbers`).

Both halves of a rotation, and of a sign that is drawn in, are put together in one way
(`Thumb.Shift.toNat_behind`).
-/

namespace Coprocessor.Thumb

/-! ## Words and numbers -/

theorem topBit_iff_div_mod (w : UInt32) : topBit w = true ↔ w.toNat / 2 ^ 31 % 2 = 1 := by
  have hlt := w.toNat_lt
  rw [topBit_eq_decide, decide_eq_true_iff]
  omega

theorem topBit_iff_signed_neg (w : UInt32) : topBit w = true ↔ signed w < 0 := by
  have hlt := w.toNat_lt
  rw [topBit_eq_decide, decide_eq_true_iff, signed_eq]
  split <;> omega

namespace Shift

theorem toNat_shiftRight_ofNat (w : UInt32) {n : Nat} (h : n < 32) :
    (w >>> .ofNat n).toNat = w.toNat / 2 ^ n := by
  have hn : (UInt32.ofNat n).toNat = n := UInt32.toNat_ofNat_of_lt' (h.trans (by decide))
  rw [UInt32.toNat_shiftRight, hn, Nat.mod_eq_of_lt h, Nat.shiftRight_eq_div_pow]

theorem toNat_shiftLeft_ofNat (w : UInt32) {n : Nat} (h : n < 32) :
    (w <<< .ofNat n).toNat = w.toNat * 2 ^ n % 2 ^ 32 := by
  have hn : (UInt32.ofNat n).toNat = n := UInt32.toNat_ofNat_of_lt' (h.trans (by decide))
  rw [UInt32.toNat_shiftLeft, hn, Nat.mod_eq_of_lt h, Nat.shiftLeft_eq]

theorem bitAt_eq_true_iff (w : UInt32) {place : Nat} (h : place < 32) :
    bitAt w place = true ↔ w.toNat / 2 ^ place % 2 = 1 := by
  have hand : (w >>> .ofNat place &&& 1).toNat = w.toNat / 2 ^ place % 2 := by
    rw [UInt32.toNat_and, toNat_shiftRight_ofNat w h]
    exact Nat.and_one_is_mod _
  rw [bitAt, bne_iff_ne, ne_eq, ← UInt32.toNat_inj, hand, UInt32.toNat_zero]
  omega

/-- The lower `n` bits of `v`, and behind them the word `w` without as many. -/
theorem toNat_behind (w v : UInt32) {n : Nat} (h : n < 32) (hn : n ≠ 0) :
    ((w >>> .ofNat n) ||| (v <<< .ofNat (32 - n))).toNat =
      v.toNat * 2 ^ (32 - n) % 2 ^ 32 + w.toNat / 2 ^ n := by
  have hsplit : 2 ^ 32 = 2 ^ n * 2 ^ (32 - n) := by rw [← Nat.pow_add, Nat.add_sub_cancel' h.le]
  have hlow : w.toNat / 2 ^ n < 2 ^ (32 - n) := by
    apply Nat.div_lt_of_lt_mul
    rw [← hsplit]
    exact w.toNat_lt
  rw [UInt32.toNat_or, toNat_shiftRight_ofNat w h, toNat_shiftLeft_ofNat v (by omega), hsplit,
    Nat.mul_mod_mul_right, Nat.or_comm, Nat.mul_comm, Nat.two_pow_add_eq_or_of_lt hlow]

/-! ## What comes out -/

/-- What a shift by `n` makes of a word. -/
def Moves (w : UInt32) (n : Nat) (result : UInt32) : Shift → Prop
  | left => result.toNat = w.toNat * 2 ^ n % 2 ^ 32
  | logicalRight => result.toNat = w.toNat / 2 ^ n
  | arithmeticRight => signed result = signed w / 2 ^ n
  | rotateRight =>
    result.toNat = w.toNat % 2 ^ (n % 32) * 2 ^ (32 - n % 32) + w.toNat / 2 ^ (n % 32)

/-- Whether the last bit is set that a shift by `n` moves out, or, if it rotates, the one that it
puts in front. -/
def IsSetLast (w : UInt32) (n : Nat) (result : UInt32) : Shift → Prop
  | left => w.toNat * 2 ^ n / 2 ^ 32 % 2 = 1
  | logicalRight => w.toNat / 2 ^ (n - 1) % 2 = 1
  | arithmeticRight => signed w / 2 ^ (n - 1) % 2 = 1
  | rotateRight => 2 ^ 31 ≤ result.toNat

variable {w : UInt32} {n : Nat}

theorem toNat_div_eq_zero (w : UInt32) (h : 32 ≤ n) : w.toNat / 2 ^ n = 0 :=
  Nat.div_eq_of_lt (w.toNat_lt.trans_le (Nat.pow_le_pow_right (by decide) h))

/-- The quotient of the number in two's complement, by that of the word. -/
theorem signed_div (w : UInt32) (h : n ≤ 32) : signed w / 2 ^ n =
    (w.toNat / 2 ^ n : Nat) - if topBit w then 2 ^ (32 - n) else 0 := by
  have hsplit : (2 : Int) ^ 32 = 2 ^ (32 - n) * 2 ^ n := by
    rw [← pow_add, Nat.sub_add_cancel h]
  rw [signed_eq, topBit_eq_decide]
  simp only [decide_eq_true_eq]
  split
  · rw [hsplit, sub_eq_add_neg, ← neg_mul,
      Int.add_mul_ediv_right _ _ (pow_ne_zero n (by decide)), ← sub_eq_add_neg]
    rfl
  · rw [sub_zero]
    rfl

/-- From its own width on a shift draws in nothing but the sign. -/
theorem signed_div_of_le (w : UInt32) (h : 31 ≤ n) :
    signed w / 2 ^ n = if topBit w then -1 else 0 := by
  have hlt := w.toNat_lt
  have hpow : (2 : Int) ^ 31 ≤ 2 ^ n := pow_le_pow_right₀ (by decide) h
  rw [signed_eq, topBit_eq_decide]
  simp only [decide_eq_true_eq]
  split
  · rw [Int.ediv_eq_neg_one_of_neg_of_le] <;> omega
  · exact Int.ediv_eq_zero_of_lt (by omega) (by omega)

theorem signed_signFill (w : UInt32) : signed (signFill w) = if topBit w then -1 else 0 := by
  rw [signFill]
  split <;> rfl

theorem apply_zero (kind : Shift) (w : UInt32) (carry : Bool) : kind.apply w 0 carry = (w, carry) :=
  rfl

theorem apply_left (hn : n ≠ 0) (carry : Bool) :
    let r := left.apply w n carry
    left.Moves w n r.1 ∧ (r.2 = true ↔ left.IsSetLast w n r.1) := by
  simp only [apply, if_neg hn, Moves, IsSetLast]
  by_cases h : n < 32
  · have hsplit : 2 ^ 32 = 2 ^ (32 - n) * 2 ^ n := by rw [← Nat.pow_add, Nat.sub_add_cancel h.le]
    rw [if_pos h, toNat_shiftLeft_ofNat w h, bitAt_eq_true_iff w (by omega)]
    refine ⟨rfl, ?_⟩
    rw [hsplit, Nat.mul_div_mul_right _ _ (Nat.two_pow_pos n)]
  · have hsplit : w.toNat * 2 ^ n = w.toNat * 2 ^ (n - 32) * 2 ^ 32 := by
      rw [mul_assoc, ← Nat.pow_add, Nat.sub_add_cancel (Nat.not_lt.mp h)]
    rw [if_neg h, hsplit, Nat.mul_mod_left, Nat.mul_div_cancel _ (by decide)]
    split
    · subst n
      rw [bitAt_eq_true_iff w (by decide)]
      simp
    · have heven : w.toNat * 2 ^ (n - 32) % 2 = 0 := by
        rw [show n - 32 = n - 33 + 1 by omega, Nat.pow_succ, ← mul_assoc, Nat.mul_mod_left]
      simp [heven]

theorem apply_logicalRight (hn : n ≠ 0) (carry : Bool) :
    let r := logicalRight.apply w n carry
    logicalRight.Moves w n r.1 ∧ (r.2 = true ↔ logicalRight.IsSetLast w n r.1) := by
  simp only [apply, if_neg hn, Moves, IsSetLast]
  by_cases h : n < 32
  · rw [if_pos h]
    exact ⟨toNat_shiftRight_ofNat w h, bitAt_eq_true_iff w (by omega)⟩
  · rw [if_neg h, toNat_div_eq_zero w (Nat.not_lt.mp h)]
    split
    · subst n
      exact ⟨rfl, topBit_iff_div_mod w⟩
    · rw [toNat_div_eq_zero w (by omega)]
      exact ⟨rfl, by decide⟩

/-- Copies of the sign, and behind them a word without its lower bits. -/
theorem signed_behind (w : UInt32) (h : n < 32) (hn : n ≠ 0) :
    signed ((w >>> .ofNat n) ||| (signFill w <<< .ofNat (32 - n))) =
      (w.toNat / 2 ^ n : Nat) - if topBit w then 2 ^ (32 - n) else 0 := by
  have hlt := w.toNat_lt
  have hle := Nat.div_le_self w.toNat (2 ^ n)
  have hhalf : 2 ^ (32 - n) ≤ 2 ^ 31 := Nat.pow_le_pow_right (by decide) (by omega)
  have hpos : 0 < 2 ^ (32 - n) := Nat.two_pow_pos _
  have hcast : ((2 ^ (32 - n) : Nat) : Int) = 2 ^ (32 - n) := rfl
  rw [signed_eq, toNat_behind w _ h hn, ← hcast]
  generalize 2 ^ (32 - n) = p at hhalf hpos
  generalize w.toNat / 2 ^ n = q at hle
  cases htop : topBit w with
  | true =>
    have hfill : (signFill w).toNat = 0xFFFFFFFF := by
      rw [signFill, htop]
      rfl
    have hones : 0xFFFFFFFF * p % 2 ^ 32 = 0x100000000 - p := by omega
    rw [hfill, hones, if_pos (by omega), if_pos rfl]
    omega
  | false =>
    have hsmall : ¬2 ^ 31 ≤ w.toNat := by simpa [topBit_eq_decide] using htop
    have hfill : (signFill w).toNat = 0 := by
      rw [signFill, htop]
      rfl
    rw [hfill, Nat.zero_mul, Nat.zero_mod, Nat.zero_add, if_neg (by omega),
      if_neg Bool.false_ne_true, sub_zero]

theorem apply_arithmeticRight (hn : n ≠ 0) (carry : Bool) :
    let r := arithmeticRight.apply w n carry
    arithmeticRight.Moves w n r.1 ∧ (r.2 = true ↔ arithmeticRight.IsSetLast w n r.1) := by
  simp only [apply, if_neg hn, Moves, IsSetLast]
  by_cases h : n < 32
  · simp only [if_pos h]
    refine ⟨(signed_behind w h hn).trans (signed_div w h.le).symm, ?_⟩
    -- The sign in front of the quotient leaves its lowest bit as it is.
    have heven : (if topBit w then 2 ^ (32 - (n - 1)) else 0 : Int) % 2 = 0 := by
      rw [show 32 - (n - 1) = 32 - n + 1 by omega, pow_succ]
      split
      · exact Int.mul_emod_left _ _
      · rfl
    rw [bitAt_eq_true_iff w (by omega), signed_div w (by omega)]
    omega
  · have hle : 32 ≤ n := Nat.not_lt.mp h
    simp only [if_neg h, signed_signFill, signed_div_of_le w (Nat.le_of_succ_le hle),
      signed_div_of_le w (Nat.le_sub_one_of_lt hle), true_and]
    cases topBit w <;> decide

theorem apply_rotateRight (hn : n ≠ 0) (carry : Bool) :
    let r := rotateRight.apply w n carry
    rotateRight.Moves w n r.1 ∧ (r.2 = true ↔ rotateRight.IsSetLast w n r.1) := by
  simp only [apply, if_neg hn, Moves, IsSetLast]
  split
  case isTrue h =>
    rw [h, topBit_eq_decide, decide_eq_true_iff, pow_zero, Nat.mod_one, Nat.div_one, zero_mul,
      zero_add]
    exact ⟨rfl, Iff.rfl⟩
  case isFalse h =>
    have hlt : n % 32 < 32 := Nat.mod_lt n (by decide)
    have hsplit : 2 ^ 32 = 2 ^ (n % 32) * 2 ^ (32 - n % 32) := by
      rw [← Nat.pow_add, Nat.add_sub_cancel' hlt.le]
    rw [toNat_behind w w hlt h, topBit_eq_decide, decide_eq_true_iff, toNat_behind w w hlt h,
      ← Nat.mul_mod_mul_right, ← hsplit]
    exact ⟨rfl, Iff.rfl⟩

/-- A word, the carry before a shift by `n`, and what comes out. -/
structure Tells (kind : Shift) (w : UInt32) (n : Nat) (carry : Bool) (out : UInt32 × Bool) :
    Prop where
  /-- The word is shifted. -/
  moves : kind.Moves w n out.1
  /-- A shift by zero keeps the word and the carry. -/
  keeps : n = 0 → out = (w, carry)
  /-- The carry is the last bit. -/
  carries : n ≠ 0 → (out.2 = true ↔ kind.IsSetLast w n out.1)
  /-- Nothing but zeros leaves a word that is gone already. -/
  clears : kind = left ∨ kind = logicalRight → 32 < n → out = (0, false)
  /-- Nothing but the sign is left of a word that is gone. -/
  fills : kind = arithmeticRight → 32 ≤ n →
    out.1 = if 2 ^ 31 ≤ w.toNat then 0xFFFFFFFF else 0

theorem moves_zero (kind : Shift) (w : UInt32) : kind.Moves w 0 w := by
  cases kind with
  | left => simp [Moves, Nat.mod_eq_of_lt w.toNat_lt]
  | logicalRight => simp [Moves]
  | arithmeticRight => simp [Moves]
  | rotateRight => simp [Moves, Nat.mod_one]

theorem apply_tells (kind : Shift) (w : UInt32) (n : Nat) (carry : Bool) :
    kind.Tells w n carry (kind.apply w n carry) := by
  have hmoves (hn : n ≠ 0) : kind.Moves w n (kind.apply w n carry).1 ∧
      ((kind.apply w n carry).2 = true ↔ kind.IsSetLast w n (kind.apply w n carry).1) := by
    cases kind with
    | left => exact apply_left hn carry
    | logicalRight => exact apply_logicalRight hn carry
    | arithmeticRight => exact apply_arithmeticRight hn carry
    | rotateRight => exact apply_rotateRight hn carry
  refine ⟨?_, ?_, fun hn => (hmoves hn).2, ?_, ?_⟩
  · by_cases hn : n = 0
    · subst n
      exact moves_zero kind w
    · exact (hmoves hn).1
  · rintro rfl
    exact apply_zero kind w carry
  · rintro (rfl | rfl) h <;>
      rw [apply, if_neg (by omega), if_neg (by omega), if_neg (by omega)]
  · rintro rfl h
    simp [apply, show n ≠ 0 by omega, Nat.not_lt.mpr h, signFill, topBit_eq_decide]

/-! ## Half words -/

/-- The code of a shift by a constant; there is no rotation by a constant. -/
def code : Shift → Nat
  | left => 0
  | logicalRight => 1
  | arithmeticRight => 2
  | rotateRight => 3

/-- The code of a shift by a register, among the operations on two registers. -/
def operationCode : Shift → Nat
  | left => 2
  | logicalRight => 3
  | arithmeticRight => 4
  | rotateRight => 7

/-- The half word of a shift by a constant of five bits. -/
def constantWord (kind : Shift) (target source : LowRegister) (amount : Fin 32) : UInt16 :=
  .ofNat (0x800 * kind.code + 0x40 * amount.val + 8 * source.val + target.val)

/-- The number that a constant of five bits stands for. -/
def constantAmount (kind : Shift) (amount : Fin 32) : Nat :=
  if amount.val = 0 ∧ kind ≠ left then 32 else amount.val

/-- The half word of a shift by a register. -/
def registerWord (kind : Shift) (target source : LowRegister) : UInt16 :=
  .ofNat (0x4000 + 0x40 * kind.operationCode + 8 * source.val + target.val)

open Instruction

theorem decode_constantWord {kind : Shift} (h : kind ≠ rotateRight) (target source : LowRegister)
    (amount : Fin 32) : decode (kind.constantWord target source amount) =
      some (.shift kind target source (kind.constantAmount amount)) := by
  have hcode : kind.code < 3 := by cases kind <;> first | decide | exact absurd rfl h
  have hn : 0x800 * kind.code + 0x40 * amount.val + 8 * source.val + target.val < 2 ^ 16 := by
    omega
  generalize hop : kind.constantWord target source amount = op
  have hfield (place width : Nat) : field op place width =
      (0x800 * kind.code + 0x40 * amount.val + 8 * source.val + target.val) /
        2 ^ place % 2 ^ width := hop ▸ field_ofNat hn place width
  have htarget : low op 0 = target := Fin.ext ((hfield 0 3).trans (by omega))
  have hsource : low op 3 = source := Fin.ext ((hfield 3 3).trans (by omega))
  have hamount : field op 6 5 = amount.val := by
    rw [hfield]
    omega
  have hkind : field op 11 5 = kind.code := by
    rw [hfield]
    omega
  have hshift : readShift op kind = .shift kind target source (kind.constantAmount amount) := by
    simp only [readShift, htarget, hsource, hamount, constantAmount, Bool.and_eq_true,
      decide_eq_true_eq]
  rw [decode, hkind]
  cases kind with
  | left => exact congrArg some hshift
  | logicalRight => exact congrArg some hshift
  | arithmeticRight => exact congrArg some hshift
  | rotateRight => exact absurd rfl h

theorem decode_registerWord (kind : Shift) (target source : LowRegister) :
    decode (kind.registerWord target source) = some (.operate (.shift kind) target source) := by
  have hlt : kind.operationCode < 16 := by cases kind <;> decide
  refine (decode_operate ⟨kind.operationCode, hlt⟩ target source).trans ?_
  cases kind <;> rfl

end Shift

/-! ## Steps -/

namespace Core

variable {code : Array UInt8} {c : Core}

theorem step_constantWord {kind : Shift} (h : kind ≠ .rotateRight) {target source : LowRegister}
    {amount : Fin 32}
    (hf : fetch? code (c.registers.get Register.pc) =
      some (kind.constantWord target source amount)) :
    step code c = .ok (c.next.putShifted target.up
      (kind.apply (c.registers.get source.up) (kind.constantAmount amount) c.flags.carry)) := by
  rw [step_of_decode hf (Shift.decode_constantWord h target source amount), execute, get_next_up]
  rfl

theorem step_registerWord {kind : Shift} {target source : LowRegister}
    (hf : fetch? code (c.registers.get Register.pc) = some (kind.registerWord target source)) :
    step code c = .ok (c.next.putShifted target.up (kind.apply (c.registers.get target.up)
      ((c.registers.get source.up).toNat % 256) c.flags.carry)) := by
  have hbyte (b : UInt32) : (b &&& 0xFF).toNat = b.toNat % 256 := by
    rw [UInt32.toNat_and]
    exact Nat.and_two_pow_sub_one_eq_mod _ 8
  rw [step_of_decode hf (Shift.decode_registerWord kind target source), execute, operate,
    get_next_up, get_next_up, hbyte]
  rfl

/-- The next core after a shift of a word by `n` into a register. -/
structure Shifts (c c' : Core) (kind : Shift) (target : LowRegister) (w : UInt32) (n : Nat) :
    Prop where
  /-- The word and the carry are those of the shift. -/
  tells : kind.Tells w n c.flags.carry (c'.registers.get target.up, c'.flags.carry)
  /-- The sign is that of the result. -/
  negative : c'.flags.negative = true ↔ signed (c'.registers.get target.up) < 0
  /-- The result is looked at. -/
  zero : c'.flags.zero = true ↔ c'.registers.get target.up = 0
  /-- Nothing overflows. -/
  overflow : c'.flags.overflow = c.flags.overflow
  /-- The next instruction comes next. -/
  counter : c'.registers.get Register.pc = c.registers.get Register.pc + 2
  /-- The other registers are as before. -/
  others : ∀ r, r ≠ target.up → r ≠ Register.pc → c'.registers.get r = c.registers.get r
  /-- The stack is as before. -/
  stack : c'.stack = c.stack

theorem shifts_putShifted (c : Core) (kind : Shift) (target : LowRegister) (w : UInt32) (n : Nat) :
    c.Shifts (c.next.putShifted target.up (kind.apply w n c.flags.carry)) kind target w n := by
  have hget (r : Register) (out : UInt32 × Bool) :
      (c.next.putShifted target.up out).registers.get r =
        if r = target.up then out.1 else c.next.registers.get r := get_put _ _ _ _
  constructor
  · rw [hget, if_pos rfl]
    exact kind.apply_tells w n c.flags.carry
  · rw [hget, if_pos rfl, ← topBit_iff_signed_neg]
    rfl
  · rw [hget, if_pos rfl]
    exact beq_iff_eq
  · rfl
  · rw [hget, if_neg target.up_ne_pc.symm]
    exact get_put_self c _ _
  · intro r hr hpc
    rw [hget, if_neg hr, get_next_of_ne hpc]
  · rfl

/-- A shift by a constant, and one by the lower byte of a register, comes out as it does in
numbers, whatever the word, the carry and the number. -/
theorem shifts_in_numbers (code : Array UInt8) (c : Core) :
    (∀ (kind : Shift) (target source : LowRegister) (amount : Fin 32), kind ≠ .rotateRight →
      fetch? code (c.registers.get Register.pc) =
        some (kind.constantWord target source amount) →
      ∃ c', step code c = .ok c' ∧ c.Shifts c' kind target (c.registers.get source.up)
        (kind.constantAmount amount)) ∧
    ∀ (kind : Shift) (target source : LowRegister),
      fetch? code (c.registers.get Register.pc) = some (kind.registerWord target source) →
      ∃ c', step code c = .ok c' ∧ c.Shifts c' kind target (c.registers.get target.up)
        ((c.registers.get source.up).toNat % 256) :=
  ⟨fun kind target _ _ h hf => ⟨_, step_constantWord h hf, shifts_putShifted c kind target _ _⟩,
    fun kind target _ hf => ⟨_, step_registerWord hf, shifts_putShifted c kind target _ _⟩⟩

/-- Of the word 0x80000001, the logical shift that says 0, the rotation by 33 and the arithmetic
shift by 255. -/
theorem shifts_in_numbers_of_ends :
    let c := start #v[-0x7FFFFFFF, 33, -1, 0, 0, 0, 0, 0]
    (∃ c', step #[0x03, 0x08] c = .ok c' ∧ c'.registers.get 3 = 0 ∧ c'.flags.carry = true ∧
      c'.flags.zero = true) ∧
    (∃ c', step #[0xC8, 0x41] c = .ok c' ∧ c'.registers.get 0 = 0xC0000000 ∧
      c'.flags.carry = true) ∧
    ∃ c', step #[0x10, 0x41] c = .ok c' ∧ c'.registers.get 0 = 0xFFFFFFFF ∧
      c'.flags.negative = true := by
  intro c
  have hword : c.registers.get (LowRegister.up 0) = 0x80000001 := by decide +kernel
  refine ⟨?_, ?_, ?_⟩
  · obtain ⟨c', hstep, h⟩ := (shifts_in_numbers #[0x03, 0x08] c).1 .logicalRight 3 0 0 (by decide)
      (by decide +kernel)
    rw [hword] at h
    have hresult : c'.registers.get 3 = 0 := UInt32.toNat_inj.mp h.tells.moves
    have hlast : (0x80000001 : UInt32).toNat / 2 ^ 31 % 2 = 1 := by decide
    exact ⟨c', hstep, hresult, (h.tells.carries (by decide)).mpr hlast, h.zero.mpr hresult⟩
  · obtain ⟨c', hstep, h⟩ := (shifts_in_numbers #[0xC8, 0x41] c).2 .rotateRight 0 1
      (by decide +kernel)
    have hamount : (c.registers.get (LowRegister.up 1)).toNat % 256 = 33 := by decide +kernel
    rw [hword, hamount] at h
    have hresult : c'.registers.get 0 = 0xC0000000 := UInt32.toNat_inj.mp h.tells.moves
    have hlast : 2 ^ 31 ≤ (c'.registers.get 0).toNat := by
      rw [hresult]
      decide
    exact ⟨c', hstep, hresult, (h.tells.carries (by decide)).mpr hlast⟩
  · obtain ⟨c', hstep, h⟩ := (shifts_in_numbers #[0x10, 0x41] c).2 .arithmeticRight 0 2
      (by decide +kernel)
    have hamount : (c.registers.get (LowRegister.up 2)).toNat % 256 = 255 := by decide +kernel
    rw [hword, hamount] at h
    have hresult : c'.registers.get 0 = 0xFFFFFFFF := h.tells.fills rfl (by decide)
    have hnegative : signed (c'.registers.get 0) < 0 := by
      rw [hresult]
      decide
    exact ⟨c', hstep, hresult, h.negative.mpr hnegative⟩

end Core

end Coprocessor.Thumb
