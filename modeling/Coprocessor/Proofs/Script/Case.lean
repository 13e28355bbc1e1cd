import Coprocessor.Script.Instruction
import Mathlib.Data.List.Basic
import Mathlib.Data.List.TakeWhile

/-!
# Words in either case

Every byte with a case is a letter, and no byte that has a meaning of its own in a script is
one (`Ascii.fold_eq_iff`). So nothing that is read from a word of a script tells the case of its
letters : keywords and comparisons, registers, numerals in base ten and sixteen, levels, pin
modes, and the options of a shift (`Script.Instruction.ofKeyword?_folded`). A text is cut into
words at the same places in either case (`Ascii.tokens_folded`).

The text that a statement appends to the mailbox is no word, and is not looked at here.
-/

namespace Coprocessor

/-! ## Letters -/

namespace Ascii

@[simp] theorem fold_fold (b : UInt8) : fold (fold b) = fold b := by
  grind [fold, isUpper]

@[simp] theorem isBlank_fold (b : UInt8) : isBlank (fold b) = isBlank b := by
  grind [fold, isUpper, isBlank]

@[simp] theorem isDigit_fold (b : UInt8) : isDigit (fold b) = isDigit b := by
  grind [fold, isUpper, isDigit]

@[simp] theorem isLetter_fold (b : UInt8) : isLetter (fold b) = isLetter b := by
  grind [fold, isUpper, isLetter]

theorem fold_of_not_isLetter {b : UInt8} (h : isLetter b = false) : fold b = b := by
  rw [isLetter, Bool.or_eq_false_iff] at h
  rw [fold, if_neg (Bool.eq_false_iff.mp h.1)]

/-- A byte that is no letter is one letter in no case. -/
theorem fold_eq_iff {c : UInt8} (hc : isLetter c = false) {b : UInt8} : fold b = c ↔ b = c := by
  constructor
  case mp =>
    intro h
    have hb : isLetter b = false := by rw [← isLetter_fold, h, hc]
    rwa [fold_of_not_isLetter hb] at h
  case mpr =>
    rintro rfl
    exact fold_of_not_isLetter hc

theorem fold_beq {c : UInt8} (hc : isLetter c = false) (b : UInt8) : (fold b == c) = (b == c) := by
  rw [Bool.eq_iff_iff, beq_iff_eq, beq_iff_eq]
  exact fold_eq_iff hc

theorem fold_of_isDigit {b : UInt8} (h : isDigit b = true) : fold b = b := by
  have hletter : isLetter b = false := by grind [isLetter, isUpper, isDigit]
  exact fold_of_not_isLetter hletter

@[simp] theorem isNameByte_fold (b : UInt8) : isNameByte (fold b) = isNameByte b := by
  rw [isNameByte, isNameByte, isLetter_fold, isDigit_fold, fold_beq rfl]

@[simp] theorem isNameStart_fold (b : UInt8) : isNameStart (fold b) = isNameStart b := by
  rw [isNameStart, isNameStart, isLetter_fold, fold_beq rfl]

/-! ## Texts -/

/-- A text with small letters for capital ones. -/
def folded (s : Bytes) : Bytes :=
  s.map fold

@[simp] theorem folded_cons (b : UInt8) (s : Bytes) : folded (b :: s) = fold b :: folded s :=
  rfl

@[simp] theorem length_folded (s : Bytes) : (folded s).length = s.length :=
  List.length_map _

@[simp] theorem folded_folded (s : Bytes) : folded (folded s) = folded s := by
  simp [folded]

theorem folded_reverse (s : Bytes) : folded s.reverse = (folded s).reverse :=
  List.map_reverse

/-- A text without letters is one text in no case. -/
theorem folded_eq_iff {c : Bytes} (hc : c.any isLetter = false) {s : Bytes} :
    folded s = c ↔ s = c := by
  induction c generalizing s with
  | nil => exact List.map_eq_nil_iff
  | cons x c ih =>
    obtain ⟨hx, hc⟩ := Bool.or_eq_false_iff.mp hc
    cases s with
    | nil => exact iff_of_false (List.cons_ne_nil _ _).symm (List.cons_ne_nil _ _).symm
    | cons b s => rw [folded_cons, List.cons.injEq, List.cons.injEq, fold_eq_iff hx, ih hc]

section

variable {p : UInt8 → Bool} (hp : ∀ b, p (fold b) = p b)

include hp

theorem dropWhile_folded (s : Bytes) : (folded s).dropWhile p = folded (s.dropWhile p) := by
  have hfold : p ∘ fold = p := funext hp
  rw [folded, List.dropWhile_map, hfold, folded]

theorem splitOnP_folded (s : Bytes) : (folded s).splitOnP p = (s.splitOnP p).map folded := by
  induction s with
  | nil => rfl
  | cons b s ih =>
    rw [folded_cons, List.splitOnP_cons_eq_if_modifyHead, List.splitOnP_cons_eq_if_modifyHead, hp,
      ih]
    split
    · rfl
    · cases s.splitOnP p <;> rfl

/-- A text is cut at the same places in either case. -/
theorem tokens_folded (s : Bytes) : tokens p (folded s) = (tokens p s).map folded := by
  have hempty : (fun t : Bytes => !t.isEmpty) ∘ folded = fun t => !t.isEmpty := by
    funext t
    cases t <;> rfl
  rw [tokens, tokens, splitOnP_folded hp, List.filter_map, hempty]

end

theorem trim_folded (s : Bytes) : trim (folded s) = folded (trim s) := by
  rw [trim, trim, trimFront, trimFront, dropWhile_folded isBlank_fold, trimBack, trimBack,
    ← folded_reverse, dropWhile_folded isBlank_fold, folded_reverse]

@[simp] theorem sameWord_folded_left (a b : Bytes) : sameWord (folded a) b = sameWord a b := by
  simp [sameWord, folded, Function.comp_def]

@[simp] theorem sameWord_folded_right (a b : Bytes) : sameWord a (folded b) = sameWord a b := by
  simp [sameWord, folded, Function.comp_def]

@[simp] theorem isWord_folded (spelling : String) (w : Bytes) :
    isWord spelling (folded w) = isWord spelling w :=
  sameWord_folded_right _ _

end Ascii

open Ascii

/-! ## Numerals -/

namespace Numeral

theorem digit?_fold (base : UInt32) (b : UInt8) : digit? base (fold b) = digit? base b := by
  rw [digit?, digit?, isDigit_fold, isLetter_fold, fold_fold]
  split
  case isTrue h => rw [fold_of_isDigit h]
  case isFalse => rfl

theorem accumulate_folded (base value : UInt32) (s : Bytes) :
    accumulate base value (folded s) = accumulate base value s := by
  induction s generalizing value with
  | nil => rfl
  | cons b s ih =>
    rw [folded_cons, accumulate, accumulate, digit?_fold]
    split
    · exact ih _
    · rfl

theorem magnitude_cons (a : UInt8) (s : Bytes) : magnitude (a :: s) =
    if a = 0x30 ∧ (folded s).head? = some 0x78 then accumulate 16 0 s.tail
    else accumulate 10 0 (a :: s) := by
  have hmark : ∀ b, fold b = 0x78 → b = 0x78 ∨ b = 0x58 := by grind [fold, isUpper]
  unfold magnitude
  split
  case h_1 rest h =>
    cases h
    rfl
  case h_2 rest h =>
    cases h
    rfl
  case h_3 hsmall hcapital =>
    rw [if_neg]
    rintro ⟨rfl, hhead⟩
    cases s with
    | nil => cases hhead
    | cons b s =>
      rcases hmark b (Option.some.inj hhead) with rfl | rfl
      · exact hsmall s rfl
      · exact hcapital s rfl

theorem magnitude_folded (s : Bytes) : magnitude (folded s) = magnitude s := by
  cases s with
  | nil => rfl
  | cons a s =>
    have hzero : fold a = 0x30 ↔ a = 0x30 := fold_eq_iff rfl
    have htail : (folded s).tail = folded s.tail := by cases s <;> rfl
    rw [folded_cons, magnitude_cons, magnitude_cons, folded_folded, htail, accumulate_folded,
      ← folded_cons, accumulate_folded]
    simp only [hzero]

theorem signed_cons (b : UInt8) (s : Bytes) : signed (b :: s) =
    if b = 0x2D then -(magnitude s).toInt32
    else if b = 0x2B then (magnitude s).toInt32 else (magnitude (b :: s)).toInt32 := by
  unfold signed
  split
  case h_1 rest h =>
    cases h
    rfl
  case h_2 rest h =>
    cases h
    rfl
  case h_3 hminus hplus =>
    rw [if_neg, if_neg]
    · rintro rfl
      exact hplus s rfl
    · rintro rfl
      exact hminus s rfl

theorem signed_folded (s : Bytes) : signed (folded s) = signed s := by
  cases s with
  | nil => rfl
  | cons b s =>
    have hminus : fold b = 0x2D ↔ b = 0x2D := fold_eq_iff rfl
    have hplus : fold b = 0x2B ↔ b = 0x2B := fold_eq_iff rfl
    rw [folded_cons, signed_cons, signed_cons, ← folded_cons, magnitude_folded, magnitude_folded]
    simp only [hminus, hplus]

/-- Prefixes and digits of a numeral may be written in either case. -/
theorem read_folded (s : Bytes) : read (folded s) = read s := by
  rw [read, read, trim_folded, signed_folded]

end Numeral

/-! ## Words of a statement -/

/-- Pin modes may be written in either case. -/
theorem Pins.Mode.read_folded (token : Bytes) : read (folded token) = read token := by
  simp only [read, isWord_folded, Numeral.read_folded]

namespace Script

theorem register?_folded (token : Bytes) : register? (folded token) = register? token := by
  cases token with
  | nil => rfl
  | cons first digits =>
    have hall : (folded digits).all isDigit = digits.all isDigit := by
      simp [folded, List.all_map, Function.comp_def]
    cases hd : digits.all isDigit with
    | false => simp [register?, hall, hd]
    | true =>
      have hsame : folded digits = digits :=
        (List.map_congr_left fun b hb =>
          fold_of_isDigit (List.all_eq_true.mp hd b hb)).trans (List.map_id' _)
      rw [folded_cons, hsame, register?, register?, fold_fold]

theorem Operand.read_folded (token : Bytes) : read (folded token) = read token := by
  simp only [read, register?_folded, isWord_folded, Numeral.read_folded]

theorem Comparison.ofToken?_folded (token : Bytes) : ofToken? (folded token) = ofToken? token := by
  have heq : ∀ c : Bytes, c.any isLetter = false → (folded token = c ↔ token = c) :=
    fun c hc => folded_eq_iff hc
  simp only [ofToken?, heq [0x3D, 0x3D] rfl, heq [0x21, 0x3D] rfl, heq [0x3C] rfl, heq [0x3E] rfl,
    heq [0x3C, 0x3D] rfl, heq [0x3E, 0x3D] rfl]

theorem Keyword.ofWord?_folded (word : Bytes) : ofWord? (folded word) = ofWord? word := by
  simp only [ofWord?, isWord_folded]

namespace Instruction

@[simp] theorem endsOperand_fold (b : UInt8) : endsOperand (fold b) = endsOperand b := by
  rw [endsOperand, endsOperand, isBlank_fold, fold_beq rfl]

theorem order?_folded (token : Bytes) : order? (folded token) = order? token := by
  simp only [order?, isWord_folded]

theorem withOptions_folded (data clock latch value bits : Operand) (order : BitOrder)
    (tokens : List Bytes) : withOptions data clock latch value bits order (tokens.map folded) =
      withOptions data clock latch value bits order tokens := by
  induction tokens generalizing bits order with
  | nil => rfl
  | cons token tokens ih =>
    rw [List.map_cons, withOptions, withOptions, order?_folded, Operand.read_folded]
    split
    · exact ih _ _
    · exact ih _ _

/-- What a keyword does with operands does not tell the case of their letters, if where labels
are bound to does not either. Of the text behind it only what is quoted matters. -/
theorem ofKeyword?_folded {resolve : Bytes → Option Nat}
    (hr : ∀ l, resolve (folded l) = resolve l) {text text' : Bytes}
    (hq : quoted? text' = quoted? text) (k : Keyword) (ts : List Bytes) :
    ofKeyword? resolve text' k (ts.map folded) = ofKeyword? resolve text k ts := by
  cases k with
  | mailboxClear => simp only [ofKeyword?]
  | mailboxAppend => simp only [ofKeyword?, hq]
  | waitMillis | waitMicros | ret | jump =>
    rcases ts with _ | ⟨a, ts⟩ <;>
      simp only [List.map_nil, List.map_cons, ofKeyword?, Operand.read_folded, hr]
  | setRegister | add | subtract | move | pinMode | digitalWrite | digitalRead | analogWrite
  | analogRead =>
    rcases ts with _ | ⟨a, _ | ⟨b, ts⟩⟩ <;>
      simp only [List.map_nil, List.map_cons, ofKeyword?, register?_folded, Operand.read_folded,
        Pins.Mode.read_folded]
  | shiftOut =>
    rcases ts with _ | ⟨data, _ | ⟨clock, _ | ⟨latch, _ | ⟨e, options⟩⟩⟩⟩ <;>
      simp only [List.map_nil, List.map_cons, ofKeyword?, Operand.read_folded, ← List.map_take,
        withOptions_folded]
  | branch =>
    rcases ts with _ | ⟨left, _ | ⟨comparison, _ | ⟨right, _ | ⟨go, _ | ⟨label, ts⟩⟩⟩⟩⟩ <;>
      simp only [List.map_nil, List.map_cons, ofKeyword?, isWord_folded,
        Comparison.ofToken?_folded, Operand.read_folded, hr]

end Instruction

end Script

end Coprocessor
