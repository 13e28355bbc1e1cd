import Coprocessor.Proofs.Wire.Damage
import Mathlib.Algebra.CharP.Two
import Mathlib.Algebra.Field.ZMod
import Mathlib.Algebra.Polynomial.Div
import Mathlib.Algebra.Polynomial.Monic
import Mathlib.Tactic.LinearCombination

/-!
# The checksum as a remainder

The bits of a string, the lowest of each byte first, are the coefficients of a polynomial over the
field of two elements, the highest first (`Checksum.ofBits`), and so are those of the register. A
register that takes a bit in shifts, and subtracts the divisor if what it shifts out is set
(`Checksum.takeBit`). That is a step of a long division : whatever was held, what is held after it
differs by a multiple of the divisor from `X` times that and the bit (`Checksum.ofWord_takeBit`). So
the register after a string is a remainder (`Checksum.ofWord_register`), and that it takes a byte in
at once makes no difference (`Checksum.register_eq_takeBits`).
-/

open Polynomial

namespace Coprocessor.Checksum

/-! ## Bit by bit -/

/-- The lower `width` bits of a number, the lowest first. -/
def lowBits (width n : Nat) : List Bool :=
  (List.range width).map n.testBit

theorem lowBits_succ (width n : Nat) :
    lowBits (width + 1) n = n.testBit 0 :: lowBits width (n / 2) := by
  have hhalf : n.testBit ∘ Nat.succ = (n / 2).testBit := by
    funext i
    exact Nat.testBit_succ n i
  rw [lowBits, List.range_succ_eq_map, List.map_cons, List.map_map, hhalf, lowBits]

/-- The bits of a string, in the order in which they are taken in. -/
def bits (data : Bytes) : List Bool :=
  data.flatMap fun b => lowBits 8 b.toNat

theorem length_bits (data : Bytes) : (bits data).length = 8 * data.length := by
  induction data with
  | nil => rfl
  | cons b data ih =>
    rw [bits, List.flatMap_cons, List.length_append, ← bits, ih, lowBits, List.length_map,
      List.length_range, List.length_cons]
    omega

/-- The register after one more bit : it shifts down, and what leaves it is added to the bit to tell
whether the divisor is subtracted. -/
def takeBit (r : UInt32) (b : Bool) : UInt32 :=
  if (r.toNat.testBit 0 ^^ b) = true then (r >>> 1) ^^^ 0xEDB88320 else r >>> 1

theorem mod_two_xor (n : Nat) : n % 2 ^^^ 2 * (n / 2) = n := by
  apply Nat.eq_of_testBit_eq
  intro i
  cases i with
  | zero => simp [Nat.testBit_zero]
  | succ i =>
    rw [Nat.testBit_xor, Nat.testBit_succ, Nat.testBit_succ, Nat.testBit_succ,
      Nat.mul_div_cancel_left _ (by decide), Nat.div_eq_of_lt (Nat.mod_lt n (by decide)),
      Nat.zero_testBit, Bool.false_xor]

/-- The lowest bit may be added to the register first. -/
theorem takeBit_eq (r : UInt32) (n : Nat) :
    takeBit r (n.testBit 0) = divideBit (r ^^^ .ofNat (n % 2)) := by
  have hlt := Nat.mod_lt n (by decide : 2 > 0)
  have hword : (UInt32.ofNat (n % 2)).toNat = n % 2 :=
    UInt32.toNat_ofNat_of_lt' (hlt.trans (by decide))
  have hbit : ((r.toNat.testBit 0 ^^ n.testBit 0) = true) ↔
      (r ^^^ .ofNat (n % 2)) &&& 1 = 1 := by
    have hlow : (n % 2).testBit 0 = n.testBit 0 := by
      rw [Nat.testBit_zero, Nat.testBit_zero, Nat.mod_mod]
    rw [and_one_eq_one_iff, UInt32.toNat_xor, hword, ← hlow, ← Nat.testBit_xor, Nat.testBit_zero,
      decide_eq_true_iff]
  have hshift : (r ^^^ .ofNat (n % 2)) >>> 1 = r >>> 1 := by
    have hzero : UInt32.ofNat (n % 2) >>> 1 = 0 := by
      apply UInt32.toNat_inj.mp
      rw [toNat_shiftRight_one, hword]
      exact Nat.div_eq_of_lt hlt
    rw [UInt32.shiftRight_xor, hzero, UInt32.xor_zero]
  rw [takeBit, divideBit, hshift]
  simp only [hbit, polynomial]

/-- Bits are taken in one after the other, or all at once. -/
theorem iterate_divideBit_eq (width : Nat) (r : UInt32) {n : Nat} (hn : n < 2 ^ width)
    (hwidth : width ≤ 32) :
    divideBit^[width] (r ^^^ .ofNat n) = (lowBits width n).foldl takeBit r := by
  induction width generalizing r n with
  | zero =>
    rw [Nat.lt_one_iff.mp hn]
    exact UInt32.xor_zero
  | succ width ih =>
    have hlt : 2 * (n / 2) < 2 ^ 32 := by
      have hle : 2 ^ (width + 1) ≤ 2 ^ 32 := Nat.pow_le_pow_right (by decide) hwidth
      omega
    have hsplit : r ^^^ .ofNat n = r ^^^ .ofNat (n % 2) ^^^ .ofNat (2 * (n / 2)) := by
      rw [UInt32.xor_assoc, ← UInt32.ofNat_xor, mod_two_xor]
    rw [hsplit, Function.iterate_succ_apply, divideBit_xor _ hlt, ← takeBit_eq, lowBits_succ,
      List.foldl_cons]
    exact ih _ (by omega) (by omega)

theorem register_eq_takeBits (r : UInt32) (data : Bytes) :
    register r data = (bits data).foldl takeBit r := by
  induction data generalizing r with
  | nil => rfl
  | cons b data ih =>
    have hb : absorb r b = (lowBits 8 b.toNat).foldl takeBit r := by
      have hword : b.toUInt32 = .ofNat b.toNat := by
        apply UInt32.toNat_inj.mp
        rw [UInt8.toNat_toUInt32, UInt32.toNat_ofNat_of_lt' (b.toNat_lt.trans (by decide))]
      rw [absorb_eq, hword, ← iterate_divideBit_eq 8 r b.toNat_lt (by decide)]
    rw [bits, List.flatMap_cons, List.foldl_append, ← hb]
    exact ih (absorb r b)

/-! ## Polynomials -/

/-- The coefficient that a bit stands for. -/
noncomputable def ofBit (b : Bool) : (ZMod 2)[X] :=
  C (b.toNat : ZMod 2)

theorem ofBit_xor (a b : Bool) : ofBit (a ^^ b) = ofBit a + ofBit b := by
  have hsum : ((a ^^ b).toNat : ZMod 2) = a.toNat + b.toNat := by
    cases a <;> cases b <;> decide
  rw [ofBit, hsum, C_add, ofBit, ofBit]

/-- The polynomial with the given coefficients, the highest first. -/
noncomputable def ofBits : List Bool → (ZMod 2)[X]
  | [] => 0
  | b :: s => ofBit b * X ^ s.length + ofBits s

theorem ofBits_append (s t : List Bool) :
    ofBits (s ++ t) = ofBits s * X ^ t.length + ofBits t := by
  induction s with
  | nil => rw [List.nil_append, ofBits, zero_mul, zero_add]
  | cons b s ih =>
    rw [List.cons_append, ofBits, ofBits, ih, List.length_append, pow_add]
    ring

theorem ofBits_concat (s : List Bool) (b : Bool) :
    ofBits (s ++ [b]) = ofBits s * X + ofBit b := by
  simp [ofBits_append, ofBits]

theorem ofBits_map_xor {α : Type} (f g : α → Bool) (l : List α) :
    ofBits (l.map fun i => f i ^^ g i) = ofBits (l.map f) + ofBits (l.map g) := by
  induction l with
  | nil => exact (add_zero _).symm
  | cons i l ih =>
    simp only [List.map_cons, ofBits, ih, ofBit_xor, List.length_map]
    ring

theorem degree_ofBits_lt (s : List Bool) : (ofBits s).degree < s.length := by
  induction s with
  | nil => simp [ofBits]
  | cons b s ih =>
    refine (degree_add_le _ _).trans_lt (max_lt ?_ (ih.trans ?_))
    · refine (degree_C_mul_X_pow_le _ _).trans_lt ?_
      exact_mod_cast Nat.lt_succ_self s.length
    · exact_mod_cast Nat.lt_succ_self s.length

/-- The polynomial of a register. -/
noncomputable def ofWord (r : UInt32) : (ZMod 2)[X] :=
  ofBits (lowBits 32 r.toNat)

/-- The divisor of degree 32. -/
noncomputable def divisor : (ZMod 2)[X] :=
  X ^ 32 + ofWord 0xEDB88320

theorem degree_ofWord_lt (r : UInt32) : (ofWord r).degree < (32 : Nat) := by
  have h := degree_ofBits_lt (lowBits 32 r.toNat)
  rwa [lowBits, List.length_map, List.length_range] at h

theorem monic_divisor : divisor.Monic :=
  monic_X_pow_add (degree_ofWord_lt _)

theorem degree_divisor : divisor.degree = (32 : Nat) := by
  have hdegree : (X ^ 32 : (ZMod 2)[X]).degree = (32 : Nat) := degree_X_pow 32
  have hlt : (ofWord 0xEDB88320).degree < (X ^ 32 : (ZMod 2)[X]).degree := by
    rw [hdegree]
    exact degree_ofWord_lt _
  rw [divisor, degree_add_eq_left_of_degree_lt hlt, hdegree]

theorem ofWord_xor (a b : UInt32) : ofWord (a ^^^ b) = ofWord a + ofWord b := by
  have hbits : (a ^^^ b).toNat.testBit = fun i => a.toNat.testBit i ^^ b.toNat.testBit i := by
    funext i
    rw [UInt32.toNat_xor, Nat.testBit_xor]
  rw [ofWord, lowBits, hbits]
  exact ofBits_map_xor _ _ _

/-- A register that shifts multiplies by `X`, and loses its highest coefficient. -/
theorem ofWord_shiftRight (r : UInt32) :
    ofWord r * X = ofBit (r.toNat.testBit 0) * X ^ 32 + ofWord (r >>> 1) := by
  have hlast : (r.toNat / 2).testBit 31 = false := by
    have hlt := r.toNat_lt
    exact Nat.testBit_lt_two_pow (by omega)
  have hbits : lowBits 32 (r.toNat / 2) = lowBits 31 (r.toNat / 2) ++ [false] := by
    rw [lowBits, List.range_succ, List.map_append, List.map_singleton, hlast, lowBits]
  have hfalse : ofBit false = 0 := by simp [ofBit]
  have hlength : (lowBits 31 (r.toNat / 2)).length = 31 := by
    rw [lowBits, List.length_map, List.length_range]
  rw [ofWord, lowBits_succ, ofBits, hlength, ofWord, toNat_shiftRight_one, hbits, ofBits_concat,
    hfalse]
  ring

/-- What is held after one more bit differs by a multiple of the divisor from `X` times what was
held and the bit. -/
theorem ofWord_takeBit (r : UInt32) (b : Bool) :
    ofWord (takeBit r b) + divisor * ofBit (r.toNat.testBit 0 ^^ b) =
      ofWord r * X + ofBit b * X ^ 32 := by
  have hshift := ofWord_shiftRight r
  have hout := ofBit_xor (r.toNat.testBit 0) b
  have htake : ofWord (takeBit r b) =
      ofWord (r >>> 1) + ofWord 0xEDB88320 * ofBit (r.toNat.testBit 0 ^^ b) := by
    rw [takeBit]
    cases r.toNat.testBit 0 ^^ b with
    | false => simp [ofBit]
    | true => simp [ofBit, ofWord_xor]
  have htwice := CharTwo.add_self_eq_zero
    (ofWord 0xEDB88320 * ofBit (r.toNat.testBit 0 ^^ b))
  rw [htake, divisor]
  linear_combination htwice - hshift + X ^ 32 * hout

/-- The register after bits is the remainder of what it was, followed by the bits. -/
theorem ofWord_takeBits (r : UInt32) (s : List Bool) :
    ofWord (s.foldl takeBit r) = (ofWord r * X ^ s.length + ofBits s * X ^ 32) %ₘ divisor := by
  have hquotient : ∃ q, ofWord (s.foldl takeBit r) + divisor * q =
      ofWord r * X ^ s.length + ofBits s * X ^ 32 := by
    induction s using List.reverseRecOn with
    | nil => exact ⟨0, by simp [ofBits]⟩
    | append_singleton s b ih =>
      obtain ⟨q, hq⟩ := ih
      have hstep := ofWord_takeBit (s.foldl takeBit r) b
      refine ⟨q * X + ofBit ((s.foldl takeBit r).toNat.testBit 0 ^^ b), ?_⟩
      rw [List.foldl_append, List.foldl_cons, List.foldl_nil, ofBits_concat, List.length_append,
        List.length_singleton, pow_succ]
      linear_combination hstep + X * hq
  obtain ⟨q, hq⟩ := hquotient
  have hdegree : (ofWord (s.foldl takeBit r)).degree < divisor.degree := by
    rw [degree_divisor]
    exact degree_ofWord_lt _
  exact (div_modByMonic_unique q _ monic_divisor ⟨hq, hdegree⟩).2.symm

/-- The register after a string is the remainder of what it was, followed by the string. -/
theorem ofWord_register (r : UInt32) (data : Bytes) : ofWord (register r data) =
    (ofWord r * X ^ (8 * data.length) + ofBits (bits data) * X ^ 32) %ₘ divisor := by
  rw [register_eq_takeBits, ofWord_takeBits, length_bits]

end Coprocessor.Checksum
