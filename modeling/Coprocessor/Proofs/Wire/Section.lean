import Coprocessor.Arguments
import Coprocessor.Proofs.Wire.Decimal
import Coprocessor.Proofs.Wire.RoundTrip
import Mathlib.Algebra.BigOperators.Group.List.Basic

/-!
# Argument sections are read back

A section that is written for up to sixty-four values is read as these values, in the
form that it was written in, and what follows it is left (`Arguments.read_write`). A section
of more values is refused by their number (`Arguments.read_of_many`).
Numerals are short enough to be read, and the first word of a section of words is
never the marker, because of `Arguments.formFor`.
-/

namespace Coprocessor

variable {α : Type}

theorem toNat_ofNat_length {s : List α} {n : Nat} (h : s.length ≤ n) (hn : n < 2 ^ 32) :
    (UInt32.ofNat s.length).toNat = s.length :=
  UInt32.toNat_ofNat_of_lt' (Nat.lt_of_le_of_lt h hn)

namespace Arguments

/-! ## Values -/

theorem decode_numeral (v : Int32) (rest : Bytes) :
    numeral (Codec.bytes.encode (Numeral.decimal v.toInt) ++ rest) = (.ok v, rest) := by
  have hl := Numeral.length_decimal_le v
  have hn := toNat_ofNat_length hl (by decide)
  have hmax : ¬maxNumeral < (UInt32.ofNat (Numeral.decimal v.toInt).length).toNat := by
    rw [hn, maxNumeral]
    omega
  rw [Codec.encode_bytes, List.append_assoc, numeral,
    Decoder.bind_of_ok (Codec.u32_lossless.faithful _ _), Decoder.ite_false_apply hmax, hn,
    Decoder.bind_of_ok (Decoder.take_append _ _), Numeral.read_decimal, Int32.ofInt_toInt]
  rfl

theorem decode_words {values : List Int32} (h : values.length ≤ maxCount) (rest : Bytes) :
    words (.ofNat values.length) (values.flatMap Codec.i32.encode ++ rest) = (.ok values, rest) := by
  have hn := toNat_ofNat_length h (by decide)
  rw [words, Decoder.ite_false_apply (by rw [hn]; omega), hn]
  exact Decoder.many_flatMap (fun v _ => Codec.i32_lossless.faithful v) rest

/-! ## Sections -/

theorem peek_of_ok {x : Decoder α} {s rest : Bytes} {a : α} (h : x s = (.ok a, rest)) :
    x.peek s = (.ok (some a), s) := by
  rw [Decoder.peek, h]
  rfl

/-- A section is read as the values that it was written for, in the form in which it was
written. -/
theorem read_write {values : List Int32} (h : values.length ≤ maxCount) (wanted : Form)
    (rest : Bytes) :
    read (write values wanted ++ rest) = (.ok ⟨formFor values wanted, values⟩, rest) := by
  have hn := toNat_ofNat_length h (by decide)
  rw [write, writeAs.eq_def, List.append_assoc, read,
    Decoder.bind_of_ok (Codec.u32_lossless.faithful _ _),
    Decoder.ite_false_apply (by rw [hn]; omega)]
  cases values with
  | nil => rfl
  | cons first others =>
    have hne : ¬UInt32.ofNat (first :: others).length = 0 := fun h0 => by
      rw [h0] at hn
      cases hn
    rw [Decoder.ite_false_apply hne]
    generalize hf : formFor (first :: others) wanted = form
    cases form with
    | ascii =>
      rw [List.append_assoc, Decoder.bind_of_ok (peek_of_ok (Codec.u32_lossless.faithful _ _)),
        Decoder.ite_true_apply rfl, Decoder.bind_of_ok (Codec.u32_lossless.faithful _ _), hn,
        Decoder.bind_of_ok (Decoder.many_flatMap (fun v _ => decode_numeral v) rest)]
      rfl
    | binary =>
      have hfirst : first.toUInt32 ≠ marker := fun he => by simp [formFor, he] at hf
      have hpeek : Codec.u32.decode.peek ((first :: others).flatMap Codec.i32.encode ++ rest) =
          (.ok (some first.toUInt32), (first :: others).flatMap Codec.i32.encode ++ rest) := by
        rw [List.flatMap_cons, List.append_assoc]
        exact peek_of_ok (Codec.u32_lossless.faithful first.toUInt32 _)
      rw [Decoder.bind_of_ok hpeek, Decoder.ite_false_apply (by simpa using hfirst),
        Decoder.bind_of_ok (decode_words h rest)]
      rfl

/-! ## Sections that are too long -/

/-- A section has no fewer bytes than values. -/
theorem length_le_length_writeAs (values : List Int32) (form : Form) :
    values.length ≤ (writeAs values form).length := by
  have parts : ∀ f : Int32 → Bytes, (∀ v, 1 ≤ (f v).length) →
      values.length ≤ (values.flatMap f).length := fun f hf => by
    have := List.length_le_sum_of_one_le (values.map fun v => (f v).length) fun n hn => by
      obtain ⟨v, -, rfl⟩ := List.mem_map.mp hn
      exact hf v
    rwa [List.length_map, ← List.length_flatMap] at this
  cases form with
  | binary =>
    have := parts Codec.i32.encode fun _ => by simp [Codec.i32]
    rw [writeAs, List.length_append]
    omega
  | ascii =>
    have := parts (fun v => Codec.bytes.encode (Numeral.decimal v.toInt)) fun v => by
      rw [Codec.encode_bytes, List.length_append, Codec.length_encode_u32]
      omega
    rw [writeAs, List.length_append, List.length_append]
    omega

variable {values : List Int32}

theorem words_of_many (hv : maxCount < values.length) (hlen : values.length < 4294967296)
    (s : Bytes) : words (.ofNat values.length) s = (.error .invalidValue, s) := by
  rw [words, Decoder.ite_true_apply (by rwa [UInt32.toNat_ofNat_of_lt' hlen])]
  rfl

/-- No section of more than sixty-four values is read. -/
theorem read_of_many (hv : maxCount < values.length) (hlen : values.length < 4294967296)
    (form : Form) (s : Bytes) : (read (writeAs values form ++ s)).1 = .error .invalidValue := by
  rw [writeAs.eq_def, List.append_assoc, read,
    Decoder.bind_of_ok (Codec.u32_lossless.faithful _ _),
    Decoder.ite_true_apply (by rwa [UInt32.toNat_ofNat_of_lt' hlen])]
  rfl

end Arguments

end Coprocessor
