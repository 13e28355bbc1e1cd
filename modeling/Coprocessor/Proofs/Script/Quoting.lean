import Coprocessor.Proofs.Script.Case
import Mathlib.Data.List.Basic
import Mathlib.Data.List.Induction

/-!
# Case outside quotes

An item of a script may be written with small letters for capital ones wherever no quote is
open (`lowerItem`), and it has the same pieces : the labels are the same up to case, and the
statements are those of the item, written in the same way (`piecesOfItem_lower`). Such a
statement does what it did before (`Instruction.read_lowerItem`). Its words are the same up to
case, and if it appends a text to the mailbox, the quote that opens this text is the first one
of the item, as no keyword holds a quote.
-/

namespace Coprocessor.Script

open Ascii

/-! ## Small letters outside quotes -/

/-- Whether a quote is open behind a byte. -/
def togglesQuote (quoted : Bool) (b : UInt8) : Bool :=
  if b = 0x22 then !quoted else quoted

/-- Whether a quote is open behind some bytes. -/
def quotedAfter (quoted : Bool) (s : Bytes) : Bool :=
  s.foldl togglesQuote quoted

/-- A byte of an item, small unless a quote is open. -/
def lowerByte (quoted : Bool) (b : UInt8) : UInt8 :=
  if quoted then b else fold b

/-- An item with small letters for capital ones where no quote is open. -/
def lowerItem : Bool → Bytes → Bytes
  | _, [] => []
  | quoted, b :: s => lowerByte quoted b :: lowerItem (togglesQuote quoted b) s

section

variable {quoted : Bool} {b c : UInt8} {s t : Bytes}

theorem lowerByte_eq_iff (hc : isLetter c = false) : lowerByte quoted b = c ↔ b = c := by
  cases quoted with
  | true => exact Iff.rfl
  | false => exact fold_eq_iff hc

theorem fold_lowerByte (quoted : Bool) (b : UInt8) : fold (lowerByte quoted b) = fold b := by
  cases quoted with
  | true => rfl
  | false => exact fold_fold b

/-- What does not tell the case of letters is the same of the small byte. -/
theorem lowerByte_of_fold {α : Type} {f : UInt8 → α} (hf : ∀ b, f (fold b) = f b) (quoted : Bool)
    (b : UInt8) : f (lowerByte quoted b) = f b := by
  cases quoted with
  | true => rfl
  | false => exact hf b

@[simp] theorem length_lowerItem (quoted : Bool) (s : Bytes) :
    (lowerItem quoted s).length = s.length := by
  induction s generalizing quoted with
  | nil => rfl
  | cons b s ih => rw [lowerItem, List.length_cons, List.length_cons, ih]

@[simp] theorem isEmpty_lowerItem (quoted : Bool) (s : Bytes) :
    (lowerItem quoted s).isEmpty = s.isEmpty := by
  cases s <;> rfl

theorem lowerItem_append (quoted : Bool) (s t : Bytes) :
    lowerItem quoted (s ++ t) = lowerItem quoted s ++ lowerItem (quotedAfter quoted s) t := by
  induction s generalizing quoted with
  | nil => rfl
  | cons b s ih =>
    rw [List.cons_append, lowerItem, lowerItem, List.cons_append, ih]
    rfl

theorem quotedAfter_append (quoted : Bool) (s t : Bytes) :
    quotedAfter quoted (s ++ t) = quotedAfter (quotedAfter quoted s) t :=
  List.foldl_append

theorem folded_lowerItem (quoted : Bool) (s : Bytes) : folded (lowerItem quoted s) = folded s := by
  induction s generalizing quoted with
  | nil => rfl
  | cons b s ih => rw [lowerItem, folded_cons, folded_cons, fold_lowerByte, ih]

theorem quotedAfter_of_not_mem (hs : 0x22 ∉ s) : quotedAfter quoted s = quoted := by
  induction s with
  | nil => rfl
  | cons b s ih =>
    obtain ⟨hb, hs⟩ := not_or.mp (mt List.mem_cons.mpr hs)
    have hsame : togglesQuote quoted b = quoted := if_neg (Ne.symm hb)
    rw [quotedAfter, List.foldl_cons, hsame]
    exact ih hs

/-- Without a quote every letter is small, or none is different. -/
theorem lowerItem_of_not_mem (hs : 0x22 ∉ s) :
    lowerItem quoted s = s.map (lowerByte quoted) := by
  induction s with
  | nil => rfl
  | cons b s ih =>
    obtain ⟨hb, hs⟩ := not_or.mp (mt List.mem_cons.mpr hs)
    have hsame : togglesQuote quoted b = quoted := if_neg (Ne.symm hb)
    rw [lowerItem, hsame, ih hs, List.map_cons]

theorem lowerItem_true (hs : 0x22 ∉ s) : lowerItem true s = s := by
  rw [lowerItem_of_not_mem hs]
  exact List.map_id' _

theorem lowerItem_false (hs : 0x22 ∉ s) : lowerItem false s = folded s :=
  lowerItem_of_not_mem hs

variable {p : UInt8 → Bool} (hp : ∀ b, p (fold b) = p b)

include hp

theorem takeWhile_lowerItem (quoted : Bool) (s : Bytes) :
    (lowerItem quoted s).takeWhile p = lowerItem quoted (s.takeWhile p) := by
  induction s generalizing quoted with
  | nil => rfl
  | cons b s ih =>
    rw [lowerItem, List.takeWhile_cons, List.takeWhile_cons, lowerByte_of_fold hp, ih]
    cases p b <;> rfl

theorem dropWhile_lowerItem (quoted : Bool) (s : Bytes) : (lowerItem quoted s).dropWhile p =
    lowerItem (quotedAfter quoted (s.takeWhile p)) (s.dropWhile p) := by
  induction s generalizing quoted with
  | nil => rfl
  | cons b s ih =>
    rw [lowerItem, List.dropWhile_cons, List.dropWhile_cons, List.takeWhile_cons,
      lowerByte_of_fold hp, ih]
    cases p b <;> rfl

end

/-! ## Blanks -/

theorem not_mem_takeWhile_isBlank (s : Bytes) : 0x22 ∉ s.takeWhile isBlank := by
  intro h
  cases List.mem_takeWhile_imp h

theorem trimFront_lowerItem (s : Bytes) :
    trimFront (lowerItem false s) = lowerItem false (trimFront s) := by
  rw [trimFront, dropWhile_lowerItem isBlank_fold,
    quotedAfter_of_not_mem (not_mem_takeWhile_isBlank s), trimFront]

theorem trimBack_concat (s : Bytes) (b : UInt8) :
    trimBack (s ++ [b]) = if isBlank b then trimBack s else s ++ [b] := by
  rw [trimBack, List.reverse_append, List.reverse_singleton, List.singleton_append,
    List.dropWhile_cons, trimBack]
  split
  · rfl
  · rw [List.reverse_cons, List.reverse_reverse]

theorem trimBack_lowerItem (quoted : Bool) (s : Bytes) :
    trimBack (lowerItem quoted s) = lowerItem quoted (trimBack s) := by
  induction s using List.reverseRecOn with
  | nil => rfl
  | append_singleton s b ih =>
    have hlast : lowerItem (quotedAfter quoted s) [b] = [lowerByte (quotedAfter quoted s) b] := rfl
    rw [trimBack_concat, lowerItem_append, hlast, trimBack_concat,
      lowerByte_of_fold isBlank_fold, ih]
    split
    · rfl
    · rw [lowerItem_append, hlast]

theorem trim_lowerItem (s : Bytes) : trim (lowerItem false s) = lowerItem false (trim s) := by
  rw [trim, trimFront_lowerItem, trimBack_lowerItem, trim]

/-! ## Labels and statements of an item -/

/-- A stretch of an item with small letters outside quotes. -/
def Stretch.lower (s : Stretch) : Stretch :=
  ⟨s.start, lowerItem false s.text⟩

/-- A piece with small letters outside quotes. -/
def Piece.lower : Piece → Piece
  | .label name => .label (folded name)
  | .statement s => .statement s.lower

theorem Stretch.trim_lower (s : Stretch) : s.lower.trim = s.trim.lower := by
  have hstart : ((lowerItem false s.text).takeWhile isBlank).length =
      (s.text.takeWhile isBlank).length := by
    rw [takeWhile_lowerItem isBlank_fold, length_lowerItem]
  simp only [Stretch.trim, Stretch.lower, hstart, trim_lowerItem]

theorem not_mem_of_isNameByte {name : Bytes} (h : ∀ b ∈ name, isNameByte b = true) :
    0x22 ∉ name :=
  fun hmem => nomatch h _ hmem

theorem drop_length_takeWhile (p : UInt8 → Bool) (s : Bytes) :
    s.drop (s.takeWhile p).length = s.dropWhile p := by
  have hdrop : (s.takeWhile p ++ s.dropWhile p).drop (s.takeWhile p).length = s.dropWhile p :=
    List.drop_left
  rwa [List.takeWhile_append_dropWhile] at hdrop

/-- A text with a label at its front is a name, a colon and something else. -/
theorem exists_of_labelName? {text name : Bytes} (h : labelName? text = some name) :
    ∃ rest, text = name ++ 0x3A :: rest ∧ ∀ b ∈ name, isNameByte b = true := by
  simp only [labelName?, drop_length_takeWhile] at h
  split at h
  case h_1 first after hfirst hafter =>
    split at h
    case isTrue hc =>
      obtain rfl := Option.some.inj h
      obtain ⟨rest, hrest⟩ : ∃ rest, text.dropWhile isNameByte = after :: rest :=
        List.head?_eq_some_iff.mp hafter
      obtain rfl : after = 0x3A := by simpa using (Bool.and_eq_true_iff.mp hc).2
      refine ⟨rest, ?_, fun b hb => List.mem_takeWhile_imp hb⟩
      rw [← hrest, List.takeWhile_append_dropWhile]
    case isFalse => cases h
  case h_2 => cases h

theorem labelName?_lowerItem (text : Bytes) :
    labelName? (lowerItem false text) = (labelName? text).map folded := by
  have hplain : 0x22 ∉ text.takeWhile isNameByte :=
    not_mem_of_isNameByte fun b hb => List.mem_takeWhile_imp hb
  have hname : (lowerItem false text).takeWhile isNameByte =
      folded (text.takeWhile isNameByte) := by
    rw [takeWhile_lowerItem isNameByte_fold, lowerItem_false hplain]
  have hafter : (lowerItem false text).dropWhile isNameByte =
      lowerItem false (text.dropWhile isNameByte) := by
    rw [dropWhile_lowerItem isNameByte_fold, quotedAfter_of_not_mem hplain]
  simp only [labelName?, drop_length_takeWhile]
  rw [hname, hafter]
  cases text.takeWhile isNameByte with
  | nil => rfl
  | cons first name =>
    cases text.dropWhile isNameByte with
    | nil => rfl
    | cons after rest =>
      simp only [folded_cons, lowerItem, lowerByte, List.head?_cons, isNameStart_fold,
        Bool.false_eq_true, if_false, fold_beq (c := 0x3A) rfl]
      split <;> rfl

/-- The item behind a label. -/
theorem drop_lower {item : Stretch} {name : Bytes} (h : labelName? item.text = some name) :
    item.lower.drop (name.length + 1) = (item.drop (name.length + 1)).lower := by
  obtain ⟨rest, htext, hname⟩ := exists_of_labelName? h
  have hplain : 0x22 ∉ name ++ [0x3A] := by
    simpa using not_mem_of_isNameByte hname
  have hsplit : item.text = (name ++ [0x3A]) ++ rest := by simpa using htext
  have hlength : (name ++ [0x3A]).length = name.length + 1 := by simp
  have hsmall : lowerItem false item.text =
      lowerItem false (name ++ [0x3A]) ++ lowerItem false rest := by
    rw [hsplit, lowerItem_append, quotedAfter_of_not_mem hplain]
  rw [Stretch.drop, Stretch.drop, Stretch.lower, Stretch.lower]
  dsimp only
  rw [hsmall, ← hlength, List.drop_left' (length_lowerItem _ _), hsplit, List.drop_left]

theorem piecesOfTrimmed_lower (item : Stretch) :
    piecesOfTrimmed item.lower = (piecesOfTrimmed item).map Piece.lower := by
  have hlower := labelName?_lowerItem item.text
  fun_induction piecesOfTrimmed item with
  | case1 item name h ih =>
    rw [h] at hlower
    rw [piecesOfTrimmed_of_label hlower, length_folded, drop_lower h, Stretch.trim_lower,
      ih (labelName?_lowerItem _)]
    rfl
  | case2 item h hempty =>
    rw [h] at hlower
    rw [piecesOfTrimmed_of_no_label hlower, Stretch.lower, isEmpty_lowerItem, if_pos hempty]
    rfl
  | case3 item h hempty =>
    rw [h] at hlower
    rw [piecesOfTrimmed_of_no_label hlower, Stretch.lower, isEmpty_lowerItem, if_neg hempty]
    rfl

/-- An item has the same pieces in small letters. -/
theorem piecesOfItem_lower (item : Stretch) :
    piecesOfItem item.lower = (piecesOfItem item).map Piece.lower := by
  rw [piecesOfItem, Stretch.trim_lower, piecesOfTrimmed_lower, piecesOfItem]

/-! ## What a statement does -/

namespace Instruction

/-- The text that is quoted first is not made small. -/
theorem quoted?_lowerItem (text : Bytes) : quoted? (lowerItem false text) = quoted? text := by
  have hp : ∀ b, (fold b != 0x22) = (b != 0x22) := fun b => congrArg not (fold_beq rfl b)
  have hplain : ∀ s : Bytes, 0x22 ∉ s.takeWhile (· != 0x22) :=
    fun s h => absurd (List.mem_takeWhile_imp h) (by decide)
  have hopen := @dropWhile_lowerItem (· != 0x22) hp false text
  rw [quotedAfter_of_not_mem (hplain text)] at hopen
  rw [quoted?, quoted?, hopen]
  cases hrest : text.dropWhile (· != 0x22) with
  | nil => rfl
  | cons b rest =>
    obtain rfl : b = 0x22 := by
      have hb := List.head?_dropWhile_not (· != 0x22) text
      rw [hrest] at hb
      simpa using hb
    have hquoted := @takeWhile_lowerItem (· != 0x22) hp true rest
    rw [lowerItem_true (hplain rest)] at hquoted
    exact congrArg some hquoted

/-- No keyword holds a quote. -/
theorem not_mem_of_ofWord? {word : Bytes} {k : Keyword} (h : Keyword.ofWord? word = some k) :
    0x22 ∉ word := by
  intro hmem
  obtain ⟨⟨spelling, k'⟩, hfound, -⟩ := Option.map_eq_some_iff.mp h
  have hword : isWord spelling word = true :=
    List.find?_some (p := fun s : String × Keyword => isWord s.1 word) hfound
  have hquote : 0x22 ∈ (Bytes.ofText spelling).map fold := by
    rw [beq_iff_eq.mp hword]
    exact List.mem_map_of_mem (f := fold) hmem
  have hnone : ∀ s ∈ Keyword.spellings, 0x22 ∉ (Bytes.ofText s.1).map fold := by decide
  exact hnone _ (List.mem_of_find?_eq_some hfound) hquote

/-- A statement does the same in small letters, if where labels are bound to does not tell the
case of their letters. -/
theorem read_lowerItem {resolve : Bytes → Option Nat} (hr : ∀ l, resolve (folded l) = resolve l)
    (statement : Bytes) : read resolve (lowerItem false statement) = read resolve statement := by
  have hword := @takeWhile_lowerItem (fun b => !endsOperand b)
    (fun b => congrArg not (endsOperand_fold b)) false statement
  have htext := @dropWhile_lowerItem (fun b => !endsOperand b)
    (fun b => congrArg not (endsOperand_fold b)) false statement
  have hkeyword : Keyword.ofWord? ((lowerItem false statement).takeWhile fun b => !endsOperand b) =
      Keyword.ofWord? (statement.takeWhile fun b => !endsOperand b) := by
    rw [hword, ← Keyword.ofWord?_folded, folded_lowerItem, Keyword.ofWord?_folded]
  simp only [read, hkeyword]
  cases hk : Keyword.ofWord? (statement.takeWhile fun b => !endsOperand b) with
  | none => rfl
  | some k =>
    rw [quotedAfter_of_not_mem (not_mem_of_ofWord? hk)] at htext
    rw [htext]
    generalize (statement.dropWhile fun b => !endsOperand b) = text
    have htokens : (tokens endsOperand (lowerItem false text)).map folded =
        (tokens endsOperand text).map folded := by
      rw [← tokens_folded endsOperand_fold, folded_lowerItem, tokens_folded endsOperand_fold]
    have hfound : ofKeyword? resolve (lowerItem false text) k
        (tokens endsOperand (lowerItem false text)) =
          ofKeyword? resolve text k (tokens endsOperand text) := by
      rw [← ofKeyword?_folded hr rfl k (tokens endsOperand (lowerItem false text)), htokens]
      exact ofKeyword?_folded hr (quoted?_lowerItem text) k _
    exact congrArg (Option.getD · .skip) hfound

end Instruction

end Coprocessor.Script
