import Coprocessor.Thumb.Flags
import Mathlib.Algebra.Group.Int.Defs
import Mathlib.Algebra.Group.Nat.Defs

/-!
# What the flags tell

The flags of a sum tell its sign, whether it is zero, and the carry out of the word. Those of a
difference tell how two words compare, as numbers and as numbers in two's complement : after a
difference every condition says what it should of the two words
(`Thumb.Condition.holds_subFlags_iff`). A signed difference that fits has the sign of the result,
and one that does not has the other sign, so the signed order is read off two flags.
-/

namespace Coprocessor.Thumb

/-! ## Signs -/

theorem topBit_eq_msb (w : UInt32) : topBit w = w.toBitVec.msb := by
  have hbit : w.toBitVec &&& BitVec.twoPow 32 31 =
      if w.toBitVec.msb then BitVec.twoPow 32 31 else 0#32 := by
    rw [BitVec.and_twoPow, BitVec.msb_eq_getLsbD_last]
  have hand : (w &&& 0x80000000).toBitVec = w.toBitVec &&& BitVec.twoPow 32 31 := rfl
  rw [Bool.eq_iff_iff, topBit, bne_iff_ne, ne_eq, ← UInt32.toBitVec_inj, hand, hbit]
  cases w.toBitVec.msb <;> decide

theorem topBit_eq_decide (w : UInt32) : topBit w = decide (2 ^ 31 ≤ w.toNat) := by
  rw [topBit_eq_msb, BitVec.msb_eq_decide]
  rfl

theorem topBit_xor (a b : UInt32) : topBit (a ^^^ b) = (topBit a != topBit b) := by
  simp only [topBit_eq_msb, UInt32.toBitVec_xor, BitVec.msb_xor]

theorem topBit_and (a b : UInt32) : topBit (a &&& b) = (topBit a && topBit b) := by
  simp only [topBit_eq_msb, UInt32.toBitVec_and, BitVec.msb_and]

/-- The number that a word is in two's complement. -/
def signed (w : UInt32) : Int :=
  w.toInt32.toInt

theorem signed_eq (w : UInt32) :
    signed w = if 2 ^ 31 ≤ w.toNat then (w.toNat : Int) - 2 ^ 32 else (w.toNat : Int) := by
  have h : signed w = w.toBitVec.toInt := rfl
  have hn : w.toBitVec.toNat = w.toNat := rfl
  rw [h, BitVec.toInt_eq_toNat_cond, hn]
  split <;> split <;> omega

theorem signed_inj {a b : UInt32} : signed a = signed b ↔ a = b := by
  have ha := a.toNat_lt
  have hb := b.toNat_lt
  rw [← UInt32.toNat_inj, signed_eq, signed_eq]
  split <;> split <;> omega

/-! ## Sums -/

theorem toNat_addFlags (a b : UInt32) (carry : Bool) :
    (addFlags a b carry).1.toNat = (a.toNat + b.toNat + carry.toNat) % 2 ^ 32 :=
  UInt32.toNat_ofNat'

theorem carry_addFlags (a b : UInt32) (carry : Bool) :
    (addFlags a b carry).2.carry = true ↔ 2 ^ 32 ≤ a.toNat + b.toNat + carry.toNat :=
  decide_eq_true_iff

/-- The number with two words as its halves. -/
def joined (high low : UInt32) : Nat :=
  2 ^ 32 * high.toNat + low.toNat

/-- Two sums, the second one with the carry of the first, add up words that are twice as long. -/
theorem joined_addFlags (high high' low low' : UInt32) (carry : Bool) :
    let s := addFlags low low' carry
    let s' := addFlags high high' s.2.carry
    joined s'.1 s.1 = (joined high low + joined high' low' + carry.toNat) % 2 ^ 64 ∧
      (s'.2.carry = true ↔ 2 ^ 64 ≤ joined high low + joined high' low' + carry.toNat) := by
  intro s s'
  have hl := low.toNat_lt
  have hl' := low'.toNat_lt
  have hcarry := carry.toNat_le
  have hs : s.1.toNat = (low.toNat + low'.toNat + carry.toNat) % 2 ^ 32 := toNat_addFlags _ _ _
  have hs' : s'.1.toNat = (high.toNat + high'.toNat + s.2.carry.toNat) % 2 ^ 32 :=
    toNat_addFlags _ _ _
  have hc : s.2.carry = true ↔ 2 ^ 32 ≤ low.toNat + low'.toNat + carry.toNat := carry_addFlags _ _ _
  have hc' : s'.2.carry = true ↔ 2 ^ 32 ≤ high.toNat + high'.toNat + s.2.carry.toNat :=
    carry_addFlags _ _ _
  rw [joined, joined, joined, hs, hs', hc']
  cases hk : s.2.carry with
  | false =>
    simp only [hk, Bool.false_eq_true, false_iff] at hc
    rw [Bool.toNat_false]
    omega
  | true =>
    simp only [hk, true_iff] at hc
    rw [Bool.toNat_true]
    omega

/-! ## Differences -/

theorem toNat_complement (b : UInt32) : (~~~b).toNat = 2 ^ 32 - 1 - b.toNat :=
  UInt32.toNat_not b

theorem fst_subFlags (a b : UInt32) : (subFlags a b).1 = a - b := by
  have hb := b.toNat_lt
  rw [← UInt32.toNat_inj, subFlags, toNat_addFlags, toNat_complement, UInt32.toNat_sub,
    Bool.toNat_true]
  congr 1
  omega

theorem carry_subFlags (a b : UInt32) : (subFlags a b).2.carry = true ↔ b.toNat ≤ a.toNat := by
  have hb := b.toNat_lt
  rw [subFlags, carry_addFlags, toNat_complement, Bool.toNat_true]
  omega

theorem zero_subFlags (a b : UInt32) : (subFlags a b).2.zero = true ↔ a = b := by
  have hz : (subFlags a b).2.zero = ((subFlags a b).1 == 0) := rfl
  rw [hz, beq_iff_eq, fst_subFlags, UInt32.sub_eq_iff_eq_add, UInt32.zero_add]

theorem negative_subFlags (a b : UInt32) :
    (subFlags a b).2.negative = true ↔ 2 ^ 31 ≤ ((a.toNat : Int) - b.toNat) % 2 ^ 32 := by
  have hn : (subFlags a b).2.negative = topBit (subFlags a b).1 := rfl
  have hb := b.toNat_lt
  rw [hn, topBit_eq_decide, decide_eq_true_iff, fst_subFlags, UInt32.toNat_sub]
  omega

/-- The overflow flag of a difference tells that the signed difference is no word. -/
theorem overflow_subFlags (a b : UInt32) : (subFlags a b).2.overflow = true ↔
    signed a - signed b < -2 ^ 31 ∨ 2 ^ 31 ≤ signed a - signed b := by
  have hv : (subFlags a b).2.overflow =
      topBit ((a ^^^ (subFlags a b).1) &&& (~~~b ^^^ (subFlags a b).1)) := rfl
  have ha := a.toNat_lt
  have hb := b.toNat_lt
  rw [hv, topBit_and, topBit_xor, topBit_xor, fst_subFlags]
  simp only [topBit_eq_decide, toNat_complement, UInt32.toNat_sub, signed_eq, Bool.and_eq_true,
    bne_iff_ne, ne_eq, decide_eq_decide]
  split <;> split <;> omega

/-- The signed order is told by the sign and the overflow of a difference. -/
theorem signed_lt_iff (a b : UInt32) :
    signed a < signed b ↔ (subFlags a b).2.negative ≠ (subFlags a b).2.overflow := by
  have hn := negative_subFlags a b
  have hv := overflow_subFlags a b
  have ha := a.toNat_lt
  have hb := b.toNat_lt
  rw [ne_eq, Bool.eq_iff_iff, hn, hv]
  simp only [signed_eq]
  split <;> split <;> omega

/-- A difference and then one with the borrow of the first subtract words that are twice as
long. -/
theorem joined_subFlags (high high' low low' : UInt32) :
    let s := subFlags low low'
    let s' := addFlags high (~~~high') s.2.carry
    joined s'.1 s.1 = (2 ^ 64 - joined high' low' + joined high low) % 2 ^ 64 ∧
      (s'.2.carry = true ↔ joined high' low' ≤ joined high low) := by
  have hh := high'.toNat_lt
  have hl := low'.toNat_lt
  have hsum : joined high low + joined (~~~high') (~~~low') + true.toNat =
      2 ^ 64 - joined high' low' + joined high low := by
    rw [joined, joined, joined, toNat_complement, toNat_complement, Bool.toNat_true]
    omega
  have hlt : joined high' low' < 2 ^ 64 := by
    rw [joined]
    omega
  obtain ⟨hjoined, hcarry⟩ := joined_addFlags high (~~~high') low (~~~low') true
  rw [hsum] at hjoined hcarry
  refine ⟨hjoined, hcarry.trans ?_⟩
  omega

/-! ## Conditions -/

namespace Condition

/-- What a condition says of two words that were compared. -/
def Relates (a b : UInt32) : Condition → Prop
  | .eq => a = b
  | .ne => a ≠ b
  | .hs => b.toNat ≤ a.toNat
  | .lo => a.toNat < b.toNat
  | .mi => 2 ^ 31 ≤ ((a.toNat : Int) - b.toNat) % 2 ^ 32
  | .pl => ((a.toNat : Int) - b.toNat) % 2 ^ 32 < 2 ^ 31
  | .vs => signed a - signed b < -2 ^ 31 ∨ 2 ^ 31 ≤ signed a - signed b
  | .vc => -2 ^ 31 ≤ signed a - signed b ∧ signed a - signed b < 2 ^ 31
  | .hi => b.toNat < a.toNat
  | .ls => a.toNat ≤ b.toNat
  | .ge => signed b ≤ signed a
  | .lt => signed a < signed b
  | .gt => signed b < signed a
  | .le => signed a ≤ signed b

/-- After a difference every condition says what it should of the two words. -/
theorem holds_subFlags_iff (a b : UInt32) (c : Condition) :
    c.holds (subFlags a b).2 = true ↔ c.Relates a b := by
  have hz := zero_subFlags a b
  have hc := carry_subFlags a b
  have hn := negative_subFlags a b
  have hv := overflow_subFlags a b
  have hlt := signed_lt_iff a b
  have hge : (subFlags a b).2.negative = (subFlags a b).2.overflow ↔ signed b ≤ signed a := by
    rw [← Int.not_lt, hlt, ne_eq, Decidable.not_not]
  have heq : a = b ↔ a.toNat = b.toNat := UInt32.toNat_inj.symm
  have hseq : a = b ↔ signed a = signed b := signed_inj.symm
  cases c with
  | eq => exact hz
  | ne => rw [holds, Relates, Bool.not_eq_true', ← Bool.not_eq_true, hz]
  | hs => exact hc
  | lo => rw [holds, Relates, Bool.not_eq_true', ← Bool.not_eq_true, hc, Nat.not_le]
  | mi => exact hn
  | pl => rw [holds, Relates, Bool.not_eq_true', ← Bool.not_eq_true, hn, Int.not_le]
  | vs => exact hv
  | vc =>
    rw [holds, Relates, Bool.not_eq_true', ← Bool.not_eq_true, hv]
    omega
  | hi =>
    rw [holds, Relates, Bool.and_eq_true, Bool.not_eq_true', ← Bool.not_eq_true, hc, hz, heq]
    omega
  | ls =>
    rw [holds, Relates, Bool.or_eq_true, Bool.not_eq_true', ← Bool.not_eq_true, hc, hz, heq]
    omega
  | ge => rw [holds, Relates, beq_iff_eq, hge]
  | lt => rw [holds, Relates, bne_iff_ne, hlt]
  | gt =>
    rw [holds, Relates, Bool.and_eq_true, beq_iff_eq, Bool.not_eq_true', ← Bool.not_eq_true, hz,
      hge, hseq]
    omega
  | le =>
    rw [holds, Relates, Bool.or_eq_true, bne_iff_ne, hz, ← hlt, hseq]
    omega

instance (a b : UInt32) (c : Condition) : Decidable (c.Relates a b) :=
  decidable_of_iff _ (c.holds_subFlags_iff a b)

end Condition

end Coprocessor.Thumb
