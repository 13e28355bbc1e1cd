import Coprocessor.Checksum
import Coprocessor.Proofs.Wire.RoundTrip
import Mathlib.Logic.Function.Iterate

/-!
# Damage that the checksum tells

A string of bytes is damaged if it is as long as another one and differs from it, but only
within four bytes in a row (`Checksum.Damages`). Such strings have different checksums
(`Checksum.Damages.ofPayload_ne`), however long they are.

The register takes up to four bytes in as one word (`Checksum.register_eq_iterate`). The
polynomial has the highest bit, so a division can be undone (`Checksum.divideBit_injective`).
So registers that went apart within four bytes do not meet again over bytes in common.
-/

namespace Coprocessor.Checksum

/-! ## Single divisions -/

theorem and_one_eq_one_iff (x : UInt32) : x &&& 1 = 1 ↔ x.toNat % 2 = 1 := by
  rw [← UInt32.toNat_inj, UInt32.toNat_and]
  exact Eq.congr_left (Nat.and_one_is_mod _)

theorem toNat_shiftRight_one (x : UInt32) : (x >>> 1).toNat = x.toNat / 2 := by
  rw [UInt32.toNat_shiftRight]
  exact Nat.shiftRight_eq_div_pow _ 1

/-- Words without the highest bit do not differ by the polynomial, which has it. -/
theorem xor_polynomial_ne {a b : UInt32} (ha : a.toNat < 2 ^ 31) (hb : b.toNat < 2 ^ 31) :
    a ^^^ polynomial ≠ b := by
  intro h
  have hp : polynomial = a ^^^ b := by
    rw [← h, ← UInt32.xor_assoc, UInt32.xor_self, UInt32.zero_xor]
  have hlt := Nat.xor_lt_two_pow ha hb
  rw [← UInt32.toNat_xor, ← hp] at hlt
  exact absurd hlt (by decide)

/-- The highest bit after a division tells the bit that was shifted out. -/
theorem divideBit_injective : Function.Injective divideBit := by
  intro x y h
  have hx := toNat_shiftRight_one x
  have hy := toNat_shiftRight_one y
  have hx' := x.toNat_lt
  have hy' := y.toNat_lt
  simp only [divideBit, and_one_eq_one_iff] at h
  apply UInt32.toNat_inj.mp
  split at h <;> split at h
  · have := congrArg UInt32.toNat ((UInt32.xor_left_inj _).mp h)
    omega
  · exact absurd h (xor_polynomial_ne (by omega) (by omega))
  · exact absurd h.symm (xor_polynomial_ne (by omega) (by omega))
  · have := congrArg UInt32.toNat h
    omega

/-- A difference in the bits above the lowest one is only shifted down. -/
theorem divideBit_xor (x : UInt32) {m : Nat} (hm : 2 * m < 2 ^ 32) :
    divideBit (x ^^^ UInt32.ofNat (2 * m)) = divideBit x ^^^ UInt32.ofNat m := by
  have htwice : (UInt32.ofNat (2 * m)).toNat = 2 * m := UInt32.toNat_ofNat_of_lt' hm
  have hhalf : UInt32.ofNat (2 * m) >>> 1 = UInt32.ofNat m := by
    apply UInt32.toNat_inj.mp
    rw [toNat_shiftRight_one, htwice, UInt32.toNat_ofNat_of_lt' (Nat.lt_of_le_of_lt (by omega) hm)]
    omega
  have hlow : (x ^^^ UInt32.ofNat (2 * m)) &&& 1 = 1 ↔ x &&& 1 = 1 := by
    have hmod := @Nat.xor_mod_two_pow x.toNat (2 * m) 1
    rw [Nat.pow_one, Nat.mul_mod_right, Nat.xor_zero] at hmod
    rw [and_one_eq_one_iff, and_one_eq_one_iff, UInt32.toNat_xor, htwice]
    exact Eq.congr_left hmod
  simp only [divideBit, hlow, UInt32.shiftRight_xor, hhalf]
  split
  · rw [UInt32.xor_assoc, UInt32.xor_comm _ polynomial, ← UInt32.xor_assoc]
  · rfl

theorem iterate_divideBit_xor (n : Nat) (x : UInt32) {m : Nat} (hm : 2 ^ n * m < 2 ^ 32) :
    divideBit^[n] (x ^^^ UInt32.ofNat (2 ^ n * m)) = divideBit^[n] x ^^^ UInt32.ofNat m := by
  induction n generalizing x with
  | zero => simp
  | succ n ih =>
    have hn : 2 ^ (n + 1) * m = 2 * (2 ^ n * m) := by rw [Nat.pow_succ', Nat.mul_assoc]
    rw [hn] at hm ⊢
    rw [Function.iterate_succ_apply, divideBit_xor x hm, ih _ (by omega),
      Function.iterate_succ_apply]

/-! ## Bytes -/

theorem absorb_eq (r : UInt32) (b : UInt8) : absorb r b = divideBit^[8] (r ^^^ b.toUInt32) :=
  rfl

theorem absorb_injective (b : UInt8) : Function.Injective (absorb · b) := by
  intro r r' h
  exact (UInt32.xor_left_inj _).mp (divideBit_injective.iterate 8 h)

/-- Registers that differ still differ after the same bytes. -/
theorem register_injective (s : Bytes) : Function.Injective (register · s) := by
  induction s with
  | nil => exact fun _ _ h => h
  | cons b s ih => exact fun _ _ h => absorb_injective b (ih h)

/-- The lowest byte of a word and the bytes above it. -/
theorem toUInt32_xor_ofNat (b : UInt8) (m : Nat) :
    b.toUInt32 ^^^ UInt32.ofNat (2 ^ 8 * m) = UInt32.ofNat (b.toNat + 2 ^ 8 * m) := by
  have hb := b.toNat_lt
  have hbits : b.toNat ^^^ 2 ^ 8 * m = 2 ^ 8 * m + b.toNat := by
    apply Nat.eq_of_testBit_eq
    intro i
    rw [Nat.testBit_xor, Nat.testBit_two_pow_mul, Nat.testBit_two_pow_mul_add _ hb]
    by_cases hi : i < 8
    · simp [hi, Nat.not_le.mpr hi]
    · have hhigh : b.toNat.testBit i = false :=
        Nat.testBit_lt_two_pow (Nat.lt_of_lt_of_le hb (Nat.pow_le_pow_right (by decide) (by omega)))
      simp [hi, Nat.le_of_not_lt hi, hhigh]
  apply UInt32.toNat_inj.mp
  rw [UInt32.toNat_xor, UInt8.toNat_toUInt32, UInt32.toNat_ofNat', UInt32.toNat_ofNat',
    Nat.add_comm, ← hbits, Nat.xor_mod_two_pow,
    Nat.mod_eq_of_lt (Nat.lt_of_lt_of_le hb (by decide : 2 ^ 8 ≤ 2 ^ 32))]

/-- Up to four bytes are taken in as one word. -/
theorem register_eq_iterate (r : UInt32) {s : Bytes} (hs : s.length ≤ 4) :
    register r s = divideBit^[8 * s.length] (r ^^^ UInt32.ofNat (Codec.ofLittleEndian s)) := by
  induction s generalizing r with
  | nil => simp [register, Codec.ofLittleEndian]
  | cons b s ih =>
    rw [List.length_cons] at hs
    have hlt := Codec.ofLittleEndian_lt s
    have hword : 2 ^ 8 * Codec.ofLittleEndian s < 2 ^ 32 := by
      have hle : 256 ^ s.length ≤ 256 ^ 3 := Nat.pow_le_pow_right (by decide) (by omega)
      omega
    calc register r (b :: s)
        = divideBit^[8 * s.length] (absorb r b ^^^ UInt32.ofNat (Codec.ofLittleEndian s)) :=
          ih (absorb r b) (by omega)
      _ = divideBit^[8 * s.length] (divideBit^[8]
            (r ^^^ b.toUInt32 ^^^ UInt32.ofNat (2 ^ 8 * Codec.ofLittleEndian s))) := by
          rw [absorb_eq, iterate_divideBit_xor 8 _ hword]
      _ = divideBit^[8 * (s.length + 1)]
            (r ^^^ UInt32.ofNat (Codec.ofLittleEndian (b :: s))) := by
          rw [← Function.iterate_add_apply, UInt32.xor_assoc, toUInt32_xor_ofNat]
          rfl

/-- Up to four bytes are told by what they make of a register. -/
theorem eq_of_register_eq {r : UInt32} {s t : Bytes} (hl : s.length = t.length)
    (hs : s.length ≤ 4) (h : register r s = register r t) : s = t := by
  have hword : ∀ u : Bytes, u.length ≤ 4 →
      (UInt32.ofNat (Codec.ofLittleEndian u)).toNat = Codec.ofLittleEndian u := by
    intro u hu
    exact UInt32.toNat_ofNat_of_lt' (Nat.lt_of_lt_of_le (Codec.ofLittleEndian_lt u)
      (Nat.pow_le_pow_right (by decide) hu))
  rw [register_eq_iterate r hs, register_eq_iterate r (hl ▸ hs), ← hl] at h
  have hxor := (UInt32.xor_right_inj _).mp (divideBit_injective.iterate _ h)
  have hnumber : Codec.ofLittleEndian s = Codec.ofLittleEndian t := by
    rw [← hword s hs, hxor, hword t (hl ▸ hs)]
  rw [← Codec.littleEndian_ofLittleEndian s, hnumber, hl, Codec.littleEndian_ofLittleEndian]

/-! ## Damage -/

/-- A string differs from another one of its length, but only within four bytes in a row. -/
structure Damages (payload damaged : Bytes) : Prop where
  /-- Nothing is lost or added. -/
  length_eq : damaged.length = payload.length
  /-- Something is changed. -/
  ne : damaged ≠ payload
  /-- Nothing is changed but in four bytes. -/
  window : ∃ start, ∀ i, i < start ∨ start + 4 ≤ i → damaged[i]? = payload[i]?

variable {payload damaged : Bytes}

theorem take_eq_of_getElem? {n : Nat} (h : ∀ i < n, damaged[i]? = payload[i]?) :
    damaged.take n = payload.take n := by
  apply List.ext_getElem?
  intro i
  rw [List.getElem?_take, List.getElem?_take]
  split
  · exact h i ‹_›
  · rfl

theorem drop_eq_of_getElem? {n : Nat} (h : ∀ i, n ≤ i → damaged[i]? = payload[i]?) :
    damaged.drop n = payload.drop n := by
  apply List.ext_getElem?
  intro i
  rw [List.getElem?_drop, List.getElem?_drop]
  exact h (n + i) (Nat.le_add_right n i)

/-- The bytes around the damage and within it. -/
theorem Damages.exists_parts (h : Damages payload damaged) :
    ∃ front s t back, payload = front ++ (s ++ back) ∧ damaged = front ++ (t ++ back) ∧
      s.length = t.length ∧ s.length ≤ 4 ∧ s ≠ t := by
  obtain ⟨start, hout⟩ := h.window
  have parts : ∀ u : Bytes,
      u = u.take start ++ ((u.drop start).take 4 ++ u.drop (start + 4)) := by
    intro u
    rw [← List.drop_drop, List.take_append_drop, List.take_append_drop]
  have hfront := take_eq_of_getElem? fun i hi => hout i (Or.inl hi)
  have hback := drop_eq_of_getElem? fun i hi => hout i (Or.inr hi)
  have hdamaged := parts damaged
  rw [hfront, hback] at hdamaged
  refine ⟨_, _, _, _, parts payload, hdamaged, ?_, List.length_take_le _ _, ?_⟩
  · simp only [List.length_take, List.length_drop, h.length_eq]
  · intro he
    rw [← he, ← parts payload] at hdamaged
    exact h.ne hdamaged

theorem Damages.register_ne (h : Damages payload damaged) (r : UInt32) :
    register r damaged ≠ register r payload := by
  obtain ⟨front, s, t, back, rfl, rfl, hl, hs, hne⟩ := h.exists_parts
  intro he
  simp only [register_append] at he
  exact hne (eq_of_register_eq hl hs (register_injective back he).symm)

/-- The checksum tells damage. -/
theorem Damages.ofPayload_ne (h : Damages payload damaged) :
    ofPayload damaged ≠ ofPayload payload := by
  have hpayload : payload ≠ [] := by
    rintro rfl
    exact h.ne (List.length_eq_zero_iff.mp h.length_eq)
  have hdamaged : damaged ≠ [] := by
    rintro rfl
    exact hpayload (List.length_eq_zero_iff.mp h.length_eq.symm)
  intro he
  rw [ofPayload, ofPayload, List.isEmpty_eq_false_iff.mpr hpayload,
    List.isEmpty_eq_false_iff.mpr hdamaged] at he
  exact h.register_ne seed (UInt32.not_inj.mp he)

end Coprocessor.Checksum
