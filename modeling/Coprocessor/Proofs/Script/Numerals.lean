import Coprocessor.Proofs.Script.Case
import Coprocessor.Proofs.Script.Placement
import Coprocessor.Proofs.Wire.Decimal
import Mathlib.Data.Nat.Digits.Defs

/-!
# What numerals say

Every text is a numeral : blanks, a sign, a mark of base sixteen, digits, a rest that is not looked
at, and blanks (`Numeral.Parts`). Each of the parts may be missing, but none is left to the one
behind it that could have taken it (`Numeral.Parts.Proper`). The digits say a number of any size,
and what is read is that number, with its sign, modulo `2 ^ 32` (`Numeral.reads_numbers`). So every
32 bit integer is read back from its numeral in either base and either case, with any blanks around
it.

The number read so far is that of the digits read so far, modulo `2 ^ 32`
(`Numeral.accumulate_run`).
-/

namespace Coprocessor.Numeral

/-! ## Digits -/

/-- The value of a digit in either case; what is no digit has the value sixteen. -/
def worth (b : UInt8) : Nat :=
  ((List.range 16).map digit).idxOf (Ascii.fold b)

/-- The number that digits say in a base, the most significant one first. -/
def number (base : Nat) (run : Bytes) : Nat :=
  Nat.ofDigits base (run.reverse.map worth)

theorem number_concat (base : Nat) (run : Bytes) (b : UInt8) :
    number base (run ++ [b]) = number base run * base + worth b := by
  rw [number, List.reverse_append, List.reverse_singleton, List.singleton_append, List.map_cons,
    Nat.ofDigits_cons, number, Nat.add_comm, Nat.mul_comm]

theorem worth_digit {d : Nat} (h : d < 16) : worth (digit d) = d := by
  have all : ∀ d < 16, worth (digit d) = d := by decide
  exact all d h

theorem ne_of_worth_lt {b c : UInt8} (h : worth b < 16) (hc : worth c = 16) : b ≠ c := by
  rintro rfl
  omega

theorem not_isBlank_of_worth_lt {b : UInt8} (h : worth b < 16) : Ascii.isBlank b = false := by
  cases hb : Ascii.isBlank b with
  | false => rfl
  | true =>
    simp only [Ascii.isBlank, Bool.or_eq_true, beq_iff_eq] at hb
    rcases hb with (((rfl | rfl) | rfl) | rfl) | rfl <;> exact absurd h (by decide)

section

variable {base : Nat} (hbase : base = 10 ∨ base = 16)

include hbase

theorem digit?_eq (b : UInt8) : digit? (.ofNat base) b =
    if worth b < base then some (.ofNat (worth b)) else none := by
  have all : ∀ n < 256, ∀ base ∈ [10, 16], digit? (.ofNat base) (.ofNat n) =
      if worth (.ofNat n) < base then some (.ofNat (worth (.ofNat n))) else none := by
    decide +kernel
  have h := all b.toNat b.toNat_lt base (by simpa using hbase)
  rwa [UInt8.ofNat_toNat] at h

/-- Digits are read up to the first byte that is none. What was read before them is the number of
digits, too. -/
theorem accumulate_run (before : Bytes) {run rest : Bytes} (hrun : ∀ b ∈ run, worth b < base)
    (hrest : ∀ b ∈ rest.head?, base ≤ worth b) :
    accumulate (.ofNat base) (.ofNat (number base before)) (run ++ rest) =
      .ofNat (number base (before ++ run)) := by
  induction run generalizing before with
  | nil =>
    rw [List.nil_append, List.append_nil]
    cases rest with
    | nil => rfl
    | cons b rest =>
      rw [accumulate, digit?_eq hbase, if_neg (Nat.not_lt.mpr (hrest b rfl))]
  | cons b run ih =>
    rw [List.cons_append, accumulate, digit?_eq hbase, if_pos (hrun b List.mem_cons_self)]
    have hnext : UInt32.ofNat (number base before) * .ofNat base + .ofNat (worth b) =
        .ofNat (number base (before ++ [b])) := by
      rw [number_concat, UInt32.ofNat_add, UInt32.ofNat_mul]
    have hih := ih (before ++ [b]) fun b' hb' => hrun b' (List.mem_cons_of_mem b hb')
    simp only [hnext, hih, List.append_assoc, List.singleton_append]

/-- Digits that are written say the number that they are written for. -/
theorem number_digits (n : Nat) :
    number base (digits base n) = n ∧ ∀ b ∈ digits base n, worth b < base := by
  induction n using Nat.strongRecOn with
  | ind n ih =>
    rw [digits]
    split
    case isTrue h =>
      have hlt : n < base := h.resolve_right (by omega)
      have hworth := worth_digit (d := n) (by omega)
      refine ⟨?_, ?_⟩
      · rw [number, List.reverse_singleton, List.map_singleton, hworth, Nat.ofDigits_singleton]
      · intro b hb
        rwa [List.mem_singleton.mp hb, hworth]
    case isFalse h =>
      obtain ⟨hnumber, hrun⟩ := ih (n / base) (Nat.div_lt_self (by omega) (by omega))
      have hmod : n % base < base := Nat.mod_lt n (by omega)
      have hworth := worth_digit (d := n % base) (by omega)
      refine ⟨?_, ?_⟩
      · rw [number_concat, hnumber, hworth, Nat.div_add_mod']
      · intro b hb
        rcases List.mem_append.mp hb with hb | hb
        · exact hrun b hb
        · rwa [List.mem_singleton.mp hb, hworth]

end

/-! ## Parts -/

/-- The parts of a text that is read as a number. -/
structure Parts where
  /-- Blanks. -/
  front : Bytes
  /-- A sign, or nothing. -/
  sign : Bytes
  /-- The mark of base sixteen, or nothing. -/
  mark : Bytes
  /-- Digits. -/
  run : Bytes
  /-- What is not looked at. -/
  rest : Bytes
  /-- Blanks. -/
  back : Bytes

/-- Blanks around a text that has none at its ends do not count. -/
theorem trim_between {front back s : Bytes} (hfront : ∀ b ∈ front, Ascii.isBlank b = true)
    (hback : ∀ b ∈ back, Ascii.isBlank b = true) (hs : Script.IsTrimmed s) :
    Ascii.trim (front ++ s ++ back) = s := by
  have hfront' : Ascii.trim (front ++ s ++ back) = Ascii.trim (s ++ back) := by
    rw [Ascii.trim, Ascii.trimFront, List.append_assoc, List.dropWhile_append_of_pos hfront]
    rfl
  have hback' : Ascii.trimBack (s ++ back) = Ascii.trimBack s := by
    rw [Ascii.trimBack, List.reverse_append,
      List.dropWhile_append_of_pos fun b hb => hback b (List.mem_reverse.mp hb)]
    rfl
  rw [hfront', ← Script.trim_trimBack, hback', Script.trim_trimBack,
    trim_of_ends hs.front hs.back]

namespace Parts

/-- What stands between the blanks. -/
def body (p : Parts) : Bytes :=
  p.sign ++ (p.mark ++ (p.run ++ p.rest))

/-- The text. -/
def text (p : Parts) : Bytes :=
  p.front ++ p.body ++ p.back

/-- The base of the digits. -/
def base (p : Parts) : Nat :=
  if p.mark = [] then 10 else 16

/-- The number that is said. -/
def value (p : Parts) : Int :=
  if p.sign = [0x2D] then -number p.base p.run else number p.base p.run

/-- The parts are what they should be, and each takes what it can. -/
structure Proper (p : Parts) : Prop where
  /-- There are blanks in front. -/
  front : ∀ b ∈ p.front, Ascii.isBlank b = true
  /-- There are blanks behind. -/
  back : ∀ b ∈ p.back, Ascii.isBlank b = true
  /-- There are no more blanks at either end. -/
  trimmed : Script.IsTrimmed p.body
  /-- The sign is one of two, or missing. -/
  sign : p.sign = [] ∨ p.sign = [0x2B] ∨ p.sign = [0x2D]
  /-- If it is missing, there is none. -/
  unsigned : p.sign = [] → ∀ b ∈ (p.mark ++ (p.run ++ p.rest)).head?, b ≠ 0x2B ∧ b ≠ 0x2D
  /-- The mark is written in either case, or missing. -/
  mark : p.mark = [] ∨ p.mark = [0x30, 0x78] ∨ p.mark = [0x30, 0x58]
  /-- If it is missing, there is none. -/
  unmarked : p.mark = [] → ¬[0x30, 0x78] <+: p.run ++ p.rest ∧ ¬[0x30, 0x58] <+: p.run ++ p.rest
  /-- The digits are digits of the base. -/
  run : ∀ b ∈ p.run, worth b < p.base
  /-- The rest does not begin with one. -/
  rest : ∀ b ∈ p.rest.head?, p.base ≤ worth b

variable {p : Parts}

theorem base_eq (p : Parts) : p.base = 10 ∨ p.base = 16 := by
  rw [base]
  split
  · exact Or.inl rfl
  · exact Or.inr rfl

theorem Proper.magnitude (h : p.Proper) :
    magnitude (p.mark ++ (p.run ++ p.rest)) = .ofNat (number p.base p.run) := by
  have hrun := accumulate_run p.base_eq [] h.run h.rest
  rcases h.mark with hmark | hmark | hmark
  · obtain ⟨hsmall, hcapital⟩ := h.unmarked hmark
    rw [base, if_pos hmark] at hrun ⊢
    rw [hmark, List.nil_append]
    unfold Numeral.magnitude
    split
    case h_1 digits heq => exact absurd ⟨digits, heq.symm⟩ hsmall
    case h_2 digits heq => exact absurd ⟨digits, heq.symm⟩ hcapital
    case h_3 => exact hrun
  all_goals
    rw [base, hmark] at hrun ⊢
    exact hrun

/-- The sign is taken off, and turns the number. -/
theorem Proper.signed (h : p.Proper) : signed p.body =
    if p.sign = [0x2D] then -(Numeral.magnitude (p.mark ++ (p.run ++ p.rest))).toInt32
    else (Numeral.magnitude (p.mark ++ (p.run ++ p.rest))).toInt32 := by
  rcases h.sign with hsign | hsign | hsign
  · have hunsigned := h.unsigned hsign
    rw [body, hsign, List.nil_append, if_neg (by simp)]
    generalize p.mark ++ (p.run ++ p.rest) = t at hunsigned
    cases t with
    | nil => rfl
    | cons b t =>
      obtain ⟨hplus, hminus⟩ := hunsigned b rfl
      rw [signed_cons, if_neg hminus, if_neg hplus]
  all_goals
    rw [body, hsign]
    rfl

/-- A text is read as the number that its parts say, modulo `2 ^ 32`. -/
theorem Proper.read (h : p.Proper) : read p.text = Int32.ofInt p.value := by
  have hnumber : (Numeral.magnitude (p.mark ++ (p.run ++ p.rest))).toInt32 =
      Int32.ofInt (number p.base p.run) := by
    rw [h.magnitude, UInt32.toInt32_ofNat', Int32.ofInt_eq_ofNat]
  rw [Numeral.read, text, trim_between h.front h.back h.trimmed, h.signed, hnumber, value]
  split
  · exact (Int32.ofInt_neg _).symm
  · rfl

theorem exists_sign (s : Bytes) : ∃ sign t, s = sign ++ t ∧
    (sign = [] ∨ sign = [0x2B] ∨ sign = [0x2D]) ∧
    (sign = [] → ∀ b ∈ t.head?, b ≠ 0x2B ∧ b ≠ 0x2D) := by
  rcases s with _ | ⟨b, t⟩
  · exact ⟨[], [], rfl, Or.inl rfl, nofun⟩
  by_cases hplus : b = 0x2B
  · exact ⟨[b], t, rfl, Or.inr (Or.inl (by rw [hplus])), nofun⟩
  by_cases hminus : b = 0x2D
  · exact ⟨[b], t, rfl, Or.inr (Or.inr (by rw [hminus])), nofun⟩
  refine ⟨[], b :: t, rfl, Or.inl rfl, fun _ b' hb' => ?_⟩
  cases hb'
  exact ⟨hplus, hminus⟩

theorem exists_mark (t : Bytes) : ∃ mark u, t = mark ++ u ∧
    (mark = [] ∨ mark = [0x30, 0x78] ∨ mark = [0x30, 0x58]) ∧
    (mark = [] → ¬[0x30, 0x78] <+: u ∧ ¬[0x30, 0x58] <+: u) := by
  by_cases hsmall : [0x30, 0x78] <+: t
  · obtain ⟨u, rfl⟩ := hsmall
    exact ⟨_, u, rfl, Or.inr (Or.inl rfl), nofun⟩
  by_cases hcapital : [0x30, 0x58] <+: t
  · obtain ⟨u, rfl⟩ := hcapital
    exact ⟨_, u, rfl, Or.inr (Or.inr rfl), nofun⟩
  exact ⟨[], t, rfl, Or.inl rfl, fun _ => ⟨hsmall, hcapital⟩⟩

/-- Every text has parts. -/
theorem exists_proper (s : Bytes) : ∃ p : Parts, p.Proper ∧ p.text = s := by
  obtain ⟨back, hback, htext⟩ := Script.exists_trim s
  obtain ⟨sign, t, hsign, hsigns, hunsigned⟩ := exists_sign (Ascii.trim s)
  obtain ⟨mark, u, hmark, hmarks, hunmarked⟩ := exists_mark t
  let isDigit := fun b => decide (worth b < if mark = [] then 10 else 16)
  let p : Parts := ⟨s.takeWhile Ascii.isBlank, sign, mark, u.takeWhile isDigit, u.dropWhile isDigit,
    back⟩
  have hrun : p.run ++ p.rest = u := List.takeWhile_append_dropWhile
  have hbody : p.body = Ascii.trim s := by rw [body, hrun, hsign, hmark]
  refine ⟨p, ⟨fun b hb => List.mem_takeWhile_imp hb, hback, ?_, hsigns, ?_, hmarks, ?_, ?_, ?_⟩, ?_⟩
  · rw [hbody]
    exact Script.isTrimmed_trim s
  · rw [hrun, ← hmark]
    exact hunsigned
  · rw [hrun]
    exact hunmarked
  · intro b hb
    have hdigit : isDigit b = true := List.mem_takeWhile_imp hb
    exact of_decide_eq_true hdigit
  · intro b hb
    have hnot := List.head?_dropWhile_not isDigit u
    rw [Option.mem_def.mp hb] at hnot
    exact Nat.not_lt.mp (of_decide_eq_false hnot)
  · rw [text, hbody]
    exact htext.symm

end Parts

/-! ## Numerals of a number -/

/-- A sign that a number may have. -/
def IsSignOf (n : Int) (sign : Bytes) : Prop :=
  if n < 0 then sign = [0x2D] else sign = [] ∨ sign = [0x2B]

/-- The numeral of a number in base sixteen, with small letters, behind its sign. -/
def hexadecimal (n : Int) : Bytes :=
  0x30 :: 0x78 :: digits 16 n.natAbs

/-- Parts that a number is written in. -/
structure Parts.IsWritten (p : Parts) (n : Int) : Prop where
  /-- There are blanks in front. -/
  front : ∀ b ∈ p.front, Ascii.isBlank b = true
  /-- There are blanks behind. -/
  back : ∀ b ∈ p.back, Ascii.isBlank b = true
  /-- The sign is that of the number. -/
  sign : IsSignOf n p.sign
  /-- The mark is small, or missing. -/
  mark : p.mark = [] ∨ p.mark = [0x30, 0x78]
  /-- The digits are those of the number. -/
  run : p.run = digits p.base n.natAbs
  /-- Nothing comes behind them. -/
  rest : p.rest = []

namespace Parts.IsWritten

variable {p : Parts} {n : Int} (h : p.IsWritten n)

include h

theorem worth_lt {b : UInt8} (hb : b ∈ p.run) : worth b < p.base := by
  rw [h.run] at hb
  exact (number_digits p.base_eq n.natAbs).2 b hb

theorem worth_lt_sixteen {b : UInt8} (hb : b ∈ p.run) : worth b < 16 := by
  have hlt := h.worth_lt hb
  rcases p.base_eq with hbase | hbase <;> omega

theorem signs : p.sign = [] ∨ p.sign = [0x2B] ∨ p.sign = [0x2D] := by
  have hsign := h.sign
  rw [IsSignOf] at hsign
  split at hsign
  · exact Or.inr (Or.inr hsign)
  · exact hsign.imp_right Or.inl

/-- There are no blanks in it. -/
theorem bare {b : UInt8} (hb : b ∈ p.body) : Ascii.isBlank b = false := by
  rcases List.mem_append.mp hb with hb | hb
  · have hall : ∀ b ∈ p.sign, Ascii.isBlank b = false := by
      rcases h.signs with h | h | h <;> simp [h, Ascii.isBlank]
    exact hall b hb
  rcases List.mem_append.mp hb with hb | hb
  · have hall : ∀ b ∈ p.mark, Ascii.isBlank b = false := by
      rcases h.mark with h | h <;> simp [h, Ascii.isBlank]
    exact hall b hb
  · rw [h.rest, List.append_nil] at hb
    exact not_isBlank_of_worth_lt (h.worth_lt_sixteen hb)

theorem proper : p.Proper where
  front := h.front
  back := h.back
  trimmed := ⟨fun _ hb => h.bare (List.mem_of_mem_head? hb),
    fun _ hb => h.bare (List.mem_of_mem_getLast? hb)⟩
  sign := h.signs
  unsigned := by
    intro _ b hb
    rcases h.mark with hmark | hmark
    · rw [hmark, h.rest, List.nil_append, List.append_nil] at hb
      have hlt := h.worth_lt_sixteen (List.mem_of_mem_head? hb)
      exact ⟨ne_of_worth_lt hlt (by decide), ne_of_worth_lt hlt (by decide)⟩
    · rw [hmark] at hb
      cases hb
      decide
  mark := h.mark.imp_right Or.inl
  unmarked := by
    intro _
    have hnot (c : UInt8) (hc : worth c = 16) : ¬[0x30, c] <+: p.run := fun hrun =>
      ne_of_worth_lt (h.worth_lt_sixteen (hrun.subset (by simp))) hc rfl
    rw [h.rest, List.append_nil]
    exact ⟨hnot 0x78 (by decide), hnot 0x58 (by decide)⟩
  run _ hb := h.worth_lt hb
  rest := by
    rw [h.rest]
    exact nofun

theorem value : p.value = n := by
  have hsign := h.sign
  rw [IsSignOf] at hsign
  rw [Parts.value, h.run, (number_digits p.base_eq n.natAbs).1]
  split at hsign
  case isTrue hn => rw [if_pos hsign, Int.ofNat_natAbs_of_nonpos hn.le, neg_neg]
  case isFalse hn =>
    have hplus : p.sign ≠ [0x2D] := by rcases hsign with hsign | hsign <;> rw [hsign] <;> decide
    rw [if_neg hplus, Int.natAbs_of_nonneg (Int.not_lt.mp hn)]

end Parts.IsWritten

theorem Parts.IsWritten.read {p : Parts} {v : Int32} (h : p.IsWritten v.toInt) :
    read p.text = v := by
  rw [h.proper.read, h.value, Int32.ofInt_toInt]

theorem folded_of_blanks {s : Bytes} (h : ∀ b ∈ s, Ascii.isBlank b = true) :
    Ascii.folded s = s := by
  have hfold : ∀ b ∈ s, Ascii.fold b = b := by
    intro b hb
    have hblank := h b hb
    grind [Ascii.fold, Ascii.isBlank, Ascii.isUpper]
  rw [Ascii.folded, List.map_congr_left hfold, List.map_id']

section

variable {front back : Bytes} (hfront : ∀ b ∈ front, Ascii.isBlank b = true)
  (hback : ∀ b ∈ back, Ascii.isBlank b = true) (v : Int32)

include hfront hback

theorem read_between_decimal : read (front ++ decimal v.toInt ++ back) = v := by
  have hsigned : ∃ sign, IsSignOf v.toInt sign ∧
      decimal v.toInt = sign ++ ([] ++ (digits 10 v.toInt.natAbs ++ [])) := by
    rw [List.append_nil]
    cases v.toInt with
    | ofNat n => exact ⟨[], by simp [IsSignOf], rfl⟩
    | negSucc n => exact ⟨[0x2D], by simp [IsSignOf, Int.negSucc_lt_zero], rfl⟩
  obtain ⟨sign, hsign, hdecimal⟩ := hsigned
  have h : Parts.IsWritten ⟨front, sign, [], digits 10 v.toInt.natAbs, [], back⟩ v.toInt :=
    ⟨hfront, hback, hsign, Or.inl rfl, rfl, rfl⟩
  rw [hdecimal]
  exact h.read

/-- Letters may be written in either case. -/
theorem read_between_hexadecimal {sign s : Bytes} (hsign : IsSignOf v.toInt sign)
    (hs : Ascii.folded s = sign ++ hexadecimal v.toInt) : read (front ++ s ++ back) = v := by
  have h : Parts.IsWritten
      ⟨front, sign, [0x30, 0x78], digits 16 v.toInt.natAbs, [], back⟩ v.toInt :=
    ⟨hfront, hback, hsign, Or.inr rfl, rfl, rfl⟩
  have hfolded : Ascii.folded (front ++ s ++ back) =
      front ++ (sign ++ hexadecimal v.toInt) ++ back := by
    have hblanks := folded_of_blanks hfront
    have hblanks' := folded_of_blanks hback
    rw [Ascii.folded] at hs hblanks hblanks' ⊢
    rw [List.map_append, List.map_append, hs, hblanks, hblanks']
  have hread := h.read
  rw [Parts.text, Parts.body, List.append_nil] at hread
  rw [← read_folded, hfolded]
  exact hread

end

/-- Every text is read as the number that it says, modulo `2 ^ 32`, so a 32 bit integer is read from
its numerals. -/
theorem reads_numbers :
    (∀ s : Bytes, ∃ p : Parts, p.Proper ∧ p.text = s) ∧
    (∀ p : Parts, p.Proper → (read p.text).toInt = p.value.bmod (2 ^ 32)) ∧
    ∀ (v : Int32) (front back : Bytes), (∀ b ∈ front, Ascii.isBlank b = true) →
      (∀ b ∈ back, Ascii.isBlank b = true) →
      read (front ++ decimal v.toInt ++ back) = v ∧
      ∀ sign s, IsSignOf v.toInt sign → Ascii.folded s = sign ++ hexadecimal v.toInt →
        read (front ++ s ++ back) = v := by
  refine ⟨Parts.exists_proper, fun p hp => ?_, fun v front back hfront hback =>
    ⟨read_between_decimal hfront hback v,
      fun sign s hsign hs => read_between_hexadecimal hfront hback v hsign hs⟩⟩
  rw [hp.read, Int32.toInt_ofInt]
  rfl

/-- A numeral that is cut off, one that is too long for a word, and the least number. -/
theorem reads_numbers_of_cut :
    (read [0x20, 0x2D, 0x30, 0x58, 0x31, 0x67, 0x32]).toInt = -1 ∧
    (read [0x39, 0x39, 0x39, 0x39, 0x39, 0x39, 0x39, 0x39, 0x39, 0x39]).toInt = 1410065407 ∧
    read [0x09, 0x2D, 0x30, 0x58, 0x38, 0x30, 0x30, 0x30, 0x30, 0x30, 0x30, 0x30, 0x0A] =
      Int32.minValue := by
  have hblank (b : UInt8) (h : Ascii.isBlank b = true) : ∀ c ∈ [b], Ascii.isBlank c = true :=
    List.forall_mem_singleton.mpr h
  refine ⟨?_, ?_, ?_⟩
  · have hcut : Parts.Proper ⟨[0x20], [0x2D], [0x30, 0x58], [0x31], [0x67, 0x32], []⟩ := by
      refine ⟨hblank 0x20 rfl, nofun, ⟨?_, ?_⟩, by decide, nofun, by decide, nofun,
        List.forall_mem_singleton.mpr (by decide), ?_⟩ <;> rintro _ ⟨⟩ <;> decide
    exact (reads_numbers.2.1 _ hcut).trans (by decide)
  · have hnine : worth 0x39 < 10 := by decide
    have hlong : Parts.Proper ⟨[], [], [], List.replicate 10 0x39, [], []⟩ := by
      refine ⟨nofun, nofun, ⟨?_, ?_⟩, by decide, fun _ => ?_, by decide, by decide,
        fun b hb => (List.eq_of_mem_replicate hb).symm ▸ hnine, nofun⟩ <;>
      rintro _ ⟨⟩ <;> decide
    exact (reads_numbers.2.1 _ hlong).trans (by decide)
  · have hneg : Int32.minValue.toInt < 0 := by decide
    have h := reads_numbers.2.2 Int32.minValue [0x09] [0x0A] (hblank 0x09 rfl) (hblank 0x0A rfl)
    exact h.2 [0x2D] [0x2D, 0x30, 0x58, 0x38, 0x30, 0x30, 0x30, 0x30, 0x30, 0x30, 0x30]
      ((if_pos hneg).mpr rfl) (by decide +kernel)

end Coprocessor.Numeral
