import Coprocessor.Numeral
import Mathlib.Algebra.Group.Nat.Defs

/-!
# Decimal numerals are read back

`Numeral.read` reads the value that `Numeral.decimal` writes (`Numeral.read_decimal`).
The digits of a number read as the number modulo `2 ^ 32`, and a numeral has neither
blanks around it nor a base prefix.
-/

namespace Coprocessor.Numeral

/-! ## Digits -/

theorem digit?_digit {d : Nat} (h : d < 10) : digit? 10 (digit d) = some (UInt32.ofNat d) := by
  have all : ∀ d < 10, digit? 10 (digit d) = some (UInt32.ofNat d) := by decide
  exact all d h

theorem isDigit_digit {d : Nat} (h : d < 10) : Ascii.isDigit (digit d) = true := by
  have all : ∀ d < 10, Ascii.isDigit (digit d) = true := by decide
  exact all d h

/-- The digits of a number, by the one that comes last. -/
theorem digits_eq (n : Nat) : digits 10 n =
    if n < 10 then [digit n] else digits 10 (n / 10) ++ [digit (n % 10)] := by
  rw [digits]
  simp only [show ¬(10 : Nat) < 2 by decide, or_false]

/-- A number has digits only. -/
theorem exists_digit_of_mem {n : Nat} {b : UInt8} (h : b ∈ digits 10 n) :
    ∃ d < 10, b = digit d := by
  induction n using Nat.strongRecOn with
  | ind n ih =>
    rw [digits_eq] at h
    split at h
    case isTrue hn => exact ⟨n, hn, List.mem_singleton.mp h⟩
    case isFalse hn =>
      rcases List.mem_append.mp h with h | h
      · exact ih (n / 10) (by omega) h
      · exact ⟨n % 10, Nat.mod_lt n (by decide), List.mem_singleton.mp h⟩

theorem isDigit_of_mem_digits {n : Nat} {b : UInt8} (h : b ∈ digits 10 n) :
    Ascii.isDigit b = true := by
  obtain ⟨d, hd, rfl⟩ := exists_digit_of_mem h
  exact isDigit_digit hd

/-- A number below a power of ten has no more digits than the exponent. -/
theorem length_digits_le {n k : Nat} (h : n < 10 ^ (k + 1)) : (digits 10 n).length ≤ k + 1 := by
  induction k generalizing n with
  | zero =>
    rw [digits_eq, if_pos (by simpa using h)]
    exact Nat.le_refl 1
  | succ k ih =>
    rw [digits_eq]
    split
    · simp
    · have hk := @ih (n / 10) (by rw [Nat.pow_succ] at h; omega)
      rw [List.length_append, List.length_singleton]
      omega

/-- Reading digits and then one more. -/
theorem accumulate_concat {s : Bytes} (hs : ∀ b ∈ s, ∃ d, digit? 10 b = some d) (value : UInt32)
    {b : UInt8} {d : UInt32} (hb : digit? 10 b = some d) :
    accumulate 10 value (s ++ [b]) = accumulate 10 value s * 10 + d := by
  induction s generalizing value with
  | nil => simp [accumulate, hb]
  | cons a s ih =>
    obtain ⟨e, he⟩ := hs a List.mem_cons_self
    simp only [List.cons_append, accumulate, he]
    exact ih (fun b hb => hs b (List.mem_cons_of_mem a hb)) _

/-- The digits of a number read as the number modulo `2 ^ 32`. -/
theorem accumulate_digits (n : Nat) : accumulate 10 0 (digits 10 n) = UInt32.ofNat n := by
  induction n using Nat.strongRecOn with
  | ind n ih =>
    rw [digits_eq]
    split
    case isTrue hn => simp [accumulate, digit?_digit hn]
    case isFalse hn =>
      have hs : ∀ b ∈ digits 10 (n / 10), ∃ d, digit? 10 b = some d := by
        intro b hb
        obtain ⟨d, hd, rfl⟩ := exists_digit_of_mem hb
        exact ⟨_, digit?_digit hd⟩
      rw [accumulate_concat hs 0 (digit?_digit (Nat.mod_lt n (by decide))), ih (n / 10) (by omega)]
      have hn : UInt32.ofNat (n / 10) * 10 + UInt32.ofNat (n % 10) =
          UInt32.ofNat (n / 10 * 10 + n % 10) := by
        rw [UInt32.ofNat_add, UInt32.ofNat_mul]
        rfl
      rw [hn, Nat.div_add_mod']

/-- The digits of a number tell the number. -/
theorem foldl_digits (n : Nat) :
    (digits 10 n).foldl (fun value b => value * 10 + (b - 0x30).toNat) 0 = n := by
  have value : ∀ d < 10, (digit d - 0x30).toNat = d := by decide
  induction n using Nat.strongRecOn with
  | ind n ih =>
    rw [digits_eq]
    split
    case isTrue hn => simp [value n hn]
    case isFalse hn =>
      rw [List.foldl_append, ih (n / 10) (by omega), List.foldl_cons, List.foldl_nil,
        value _ (Nat.mod_lt n (by decide))]
      omega

theorem digits_inj {m n : Nat} (h : digits 10 m = digits 10 n) : m = n := by
  rw [← foldl_digits m, h, foldl_digits]

/-! ## Numerals -/

/-- Digits have no base prefix. -/
theorem magnitude_of_digits {s : Bytes} (hs : ∀ b ∈ s, Ascii.isDigit b = true) :
    magnitude s = accumulate 10 0 s := by
  unfold magnitude
  split
  case h_1 rest => exact absurd (hs 0x78 (by simp)) (by decide)
  case h_2 rest => exact absurd (hs 0x58 (by simp)) (by decide)
  case h_3 => rfl

/-- Digits have no sign. -/
theorem signed_of_digits {s : Bytes} (hs : ∀ b ∈ s, Ascii.isDigit b = true) :
    signed s = (accumulate 10 0 s).toInt32 := by
  unfold signed
  split
  case h_1 rest => exact absurd (hs 0x2D (by simp)) (by decide)
  case h_2 rest => exact absurd (hs 0x2B (by simp)) (by decide)
  case h_3 => rw [magnitude_of_digits hs]

/-- Nothing is cut off a text that neither begins nor ends with a blank. -/
theorem trim_of_ends {s : Bytes} (hfirst : ∀ b ∈ s.head?, Ascii.isBlank b = false)
    (hlast : ∀ b ∈ s.getLast?, Ascii.isBlank b = false) : Ascii.trim s = s := by
  have front : ∀ t : Bytes, (∀ b ∈ t.head?, Ascii.isBlank b = false) →
      t.dropWhile Ascii.isBlank = t := by
    intro t ht
    cases t with
    | nil => rfl
    | cons b t => rw [List.dropWhile_cons_of_neg (Bool.eq_false_iff.mp (ht b rfl))]
  rw [Ascii.trim, Ascii.trimFront, front s hfirst, Ascii.trimBack,
    front s.reverse (by simpa using hlast), List.reverse_reverse]

theorem trim_of_no_blank {s : Bytes} (hs : ∀ b ∈ s, Ascii.isBlank b = false) :
    Ascii.trim s = s :=
  trim_of_ends (fun b hb => hs b (List.mem_of_mem_head? hb))
    fun b hb => hs b (List.mem_of_mem_getLast? hb)

theorem isBlank_of_isDigit {b : UInt8} (h : Ascii.isDigit b = true) : Ascii.isBlank b = false := by
  cases hb : Ascii.isBlank b with
  | false => rfl
  | true =>
    simp only [Ascii.isBlank, Bool.or_eq_true, beq_iff_eq] at hb
    rcases hb with (((rfl | rfl) | rfl) | rfl) | rfl <;> cases h

/-- A numeral has no blanks. -/
theorem isBlank_of_mem_decimal {n : Int} {b : UInt8} (h : b ∈ decimal n) :
    Ascii.isBlank b = false := by
  cases n with
  | ofNat n => exact isBlank_of_isDigit (isDigit_of_mem_digits h)
  | negSucc n =>
    rcases List.mem_cons.mp h with rfl | h
    · rfl
    · exact isBlank_of_isDigit (isDigit_of_mem_digits h)

/-- A numeral reads as the number that it was written for, modulo `2 ^ 32`. -/
theorem read_decimal (n : Int) : read (decimal n) = Int32.ofInt n := by
  rw [read, trim_of_no_blank fun b hb => isBlank_of_mem_decimal hb]
  cases n with
  | ofNat n =>
    rw [decimal, signed_of_digits fun b hb => isDigit_of_mem_digits hb, accumulate_digits,
      UInt32.toInt32_ofNat', ← Int32.ofInt_eq_ofNat]
    rfl
  | negSucc n =>
    rw [decimal, signed, magnitude_of_digits fun b hb => isDigit_of_mem_digits hb,
      accumulate_digits, UInt32.toInt32_ofNat', ← Int32.ofInt_eq_ofNat, ← Int32.ofInt_neg]
    rfl

/-- The numeral of a 32 bit integer has eleven bytes at most. -/
theorem length_decimal_le (v : Int32) : (decimal v.toInt).length ≤ 11 := by
  have hlt := v.toInt_lt
  have hle := v.le_toInt
  cases hv : v.toInt with
  | ofNat n =>
    have := @length_digits_le n 9 (by simp [hv] at hlt; omega)
    rw [decimal]
    omega
  | negSucc n =>
    have := @length_digits_le (n + 1) 9 (by simp [hv] at hle; omega)
    rw [decimal, List.length_cons]
    omega

end Coprocessor.Numeral
