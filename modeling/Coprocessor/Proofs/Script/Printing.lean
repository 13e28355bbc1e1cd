import Coprocessor.Proofs.Handoff.Interruption
import Coprocessor.Proofs.Script.Operands
import Coprocessor.Proofs.Script.Recognition
import Coprocessor.Proofs.Script.SharedText

/-!
# Texts that are printed

A statement prints a text if it is a word for that, blanks, and the text in quotes (`Print`). Two
scanners look for the quotes. The first one cuts lines into items, and to it the text is quoted from
end to end, so whatever else it holds ends no item, begins no comment and makes no label
(`Print.isStatementText`). The second one looks for the first quote and the next one, and finds the
text between them (`Print.read_statement`).

Statements that neither return nor go anywhere else are done in order (`Run.finish_of_straight`).
So of a script of prints the mailbox has the texts one after the other, up to what it has room for
(`Mailbox.text_appends`).
-/

namespace Coprocessor

/-! ## Texts in a mailbox -/

/-- A text without a NUL is stored up to what there is room for. -/
theorem Mailbox.text_append_of_no_nul (m : Mailbox) {s : Bytes} (hs : 0 ∉ s) :
    (m.append s).text = (m.text ++ s).take (m.capacity - 1) := by
  have hnul : upToNul s = s :=
    List.takeWhile_eq_self_iff.mpr fun b hb => bne_iff_ne.mpr fun h0 => hs (h0 ▸ hb)
  rw [text_append_eq_take, hnul]

/-- Texts that are appended one after the other are stored up to what there is room for. -/
theorem Mailbox.text_appends (m : Mailbox) {texts : List Bytes} (h : ∀ s ∈ texts, 0 ∉ s) :
    (texts.foldl append m).capacity = m.capacity ∧
      (texts.foldl append m).text = (m.text ++ texts.flatten).take (m.capacity - 1) := by
  induction texts generalizing m with
  | nil => simp [m.take_text]
  | cons s texts ih =>
    obtain ⟨hs, htexts⟩ := List.forall_mem_cons.mp h
    obtain ⟨hcapacity, htext⟩ := ih (m.append s) htexts
    have hroom : (m.append s).capacity = m.capacity := rfl
    rw [List.foldl_cons, htext, hroom, m.text_append_of_no_nul hs, take_take_append,
      List.flatten_cons, List.append_assoc]
    exact ⟨hcapacity, rfl⟩

namespace Script

open Ascii

/-! ## Statements that print -/

/-- Whether a byte may stand in a text that is printed. -/
abbrev IsQuotable (b : UInt8) : Prop :=
  IsInLine b ∧ b ≠ 0x22

/-- A statement that prints a text. -/
structure Print where
  /-- The word for it, in letters of either case. -/
  word : Bytes
  /-- What stands between the word and the text. -/
  gap : Bytes
  /-- The text. -/
  text : Bytes
  /-- The word is one of two. -/
  spelled : isWord "MBAPP" word = true ∨ isWord "PRINT" word = true
  /-- There is a blank at least. -/
  gap_ne_nil : gap ≠ []
  /-- There are blanks only. -/
  isGap : IsGap gap
  /-- The text can be quoted. -/
  quotable : ∀ b ∈ text, IsQuotable b

namespace Print

/-- A statement up to the quote that opens its text. -/
def opening (p : Print) : Bytes :=
  p.word ++ p.gap ++ [0x22]

/-- The statement. -/
def statement (p : Print) : Bytes :=
  p.opening ++ p.text ++ [0x22]

variable (p : Print)

theorem folded_word : folded p.word = folded (Bytes.ofText "MBAPP") ∨
    folded p.word = folded (Bytes.ofText "PRINT") :=
  p.spelled.imp (fun h => (beq_iff_eq.mp h).symm) fun h => (beq_iff_eq.mp h).symm

theorem ofWord?_word : Keyword.ofWord? p.word = some .mailboxAppend := by
  rw [← Keyword.ofWord?_folded]
  rcases p.folded_word with h | h <;>
  · rw [h]
    decide

theorem isNameByte_of_mem_word {b : UInt8} (hb : b ∈ p.word) : isNameByte b = true := by
  have hfold : fold b ∈ folded p.word := List.mem_map_of_mem hb
  rw [← isNameByte_fold]
  rcases p.folded_word with h | h <;>
  · rw [h] at hfold
    exact List.all_eq_true.mp (by decide) _ hfold

theorem word_ne_nil : p.word ≠ [] := by
  intro hnil
  have h := p.spelled
  rw [hnil] at h
  revert h
  decide

theorem not_mem_word : 0x22 ∉ p.word :=
  not_mem_of_isNameByte fun _ => p.isNameByte_of_mem_word

theorem not_mem_gap : 0x22 ∉ p.gap := fun h => by
  cases (p.isGap _ h).1

theorem not_mem_text : 0x22 ∉ p.text := fun h =>
  (p.quotable _ h).2 rfl

theorem count_opening : p.opening.count 0x22 = 1 := by
  rw [opening, List.count_append, List.count_append, List.count_eq_zero.mpr p.not_mem_word,
    List.count_eq_zero.mpr p.not_mem_gap]
  rfl

/-- What stands before the text is in the word, is a blank, or is a quote. -/
theorem of_mem_opening {b : UInt8} (hb : b ∈ p.opening) :
    isNameByte b = true ∨ isBlank b = true ∧ b ≠ 0x0A ∨ b = 0x22 := by
  simp only [opening, List.mem_append, List.mem_singleton, or_assoc] at hb
  exact hb.imp p.isNameByte_of_mem_word (Or.imp_left (p.isGap b))

/-! ### The scanner of lines -/

/-- At any byte but those of the word, the blanks and the quotes a quote is open. -/
theorem hasOpenQuote_take {n : Nat} {b : UInt8} (hn : p.statement[n]? = some b)
    (hname : isNameByte b = false) (hblank : isBlank b = false) (hquote : b ≠ 0x22) :
    HasOpenQuote (p.statement.take n) := by
  rw [statement, List.append_assoc] at hn ⊢
  have hbehind : p.opening.length ≤ n := by
    refine Nat.le_of_not_lt fun hlt => ?_
    rw [List.getElem?_append_left hlt] at hn
    have hb := p.of_mem_opening (List.mem_of_getElem? hn)
    simp [hname, hblank, hquote] at hb
  rw [List.getElem?_append_right hbehind] at hn
  have hinside : n - p.opening.length < p.text.length := by
    refine Nat.lt_of_not_le fun hle => hquote ?_
    rw [List.getElem?_append_right hle] at hn
    exact List.mem_singleton.mp (List.mem_of_getElem? hn)
  have hnone : (p.text.take (n - p.opening.length)).count 0x22 = 0 :=
    List.count_eq_zero.mpr fun h => p.not_mem_text (List.mem_of_mem_take h)
  rw [List.take_append, List.take_of_length_le hbehind,
    List.take_append_of_le_length (Nat.le_of_lt hinside), HasOpenQuote, List.count_append, hnone,
    p.count_opening]

/-- Whatever text is printed, the statement that prints it can stand in a script. -/
theorem isStatementText : IsStatementText p.statement where
  ne_nil := by simp [statement]
  front := by
    obtain ⟨b, word, hword⟩ := List.exists_cons_of_ne_nil p.word_ne_nil
    have hname : isNameByte b = true := p.isNameByte_of_mem_word (hword ▸ List.mem_cons_self)
    have hblank : isBlank b = false := isBlank_of_isTame (by simp [isTame, hname])
    simp [statement, opening, hword, hblank]
  back := by simp [statement, isBlank]
  inLine b hb := by
    rcases List.mem_append.mp hb with hb | hb
    · rcases List.mem_append.mp hb with hb | hb
      · rcases p.of_mem_opening hb with hname | hgap | rfl
        · exact ⟨ne_of_isNameByte hname rfl, ne_of_isNameByte hname rfl⟩
        · exact ⟨hgap.2, ne_of_isBlank hgap.1 rfl⟩
        · decide
      · exact (p.quotable b hb).1
    · rw [List.mem_singleton.mp hb]
      decide
  closed := by
    rw [HasOpenQuote, statement, List.count_append, List.count_append, p.count_opening,
      List.count_eq_zero.mpr p.not_mem_text]
    decide
  semicolon _ _ hn := p.hasOpenQuote_take hn rfl rfl (by decide)
  hash _ _ hn := p.hasOpenQuote_take hn rfl rfl (by decide)
  slashes _ _ hn _ := p.hasOpenQuote_take hn rfl rfl (by decide)
  unlabelled n _ hn hname := by
    -- The bytes before a colon hold a quote, and a name holds none.
    have hopen := p.hasOpenQuote_take hn rfl rfl (by decide)
    rw [HasOpenQuote, List.count_eq_zero.mpr (not_mem_of_isNameByte hname.bytes)] at hopen
    cases hopen

/-- The item that is the statement, without labels. -/
def item : Item :=
  ⟨[], some p.statement, nofun, fun _ hs => Option.some.inj hs ▸ p.isStatementText⟩

/-! ### The scanner of quotes -/

/-- The first quote and the next one stand around the text. -/
theorem quoted?_behindWord : Instruction.quoted? (p.gap ++ 0x22 :: (p.text ++ [0x22])) =
    some p.text := by
  have hgap : ∀ b ∈ p.gap, (b != 0x22) = true := fun b hb =>
    bne_iff_ne.mpr fun h => p.not_mem_gap (h ▸ hb)
  have htext : ∀ b ∈ p.text, (b != 0x22) = true := fun b hb =>
    bne_iff_ne.mpr fun h => p.not_mem_text (h ▸ hb)
  rw [Instruction.quoted?, List.dropWhile_append_of_pos hgap,
    List.dropWhile_cons_of_neg (by decide)]
  simp [List.takeWhile_append_of_pos htext]

/-- A statement that prints a text appends this text to the mailbox. -/
theorem read_statement (resolve : Bytes → Option Nat) :
    Instruction.read resolve p.statement = .mailboxAppend p.text := by
  obtain ⟨b, gap, hgap⟩ := List.exists_cons_of_ne_nil p.gap_ne_nil
  have hblank : Instruction.endsOperand b = true := by
    rw [Instruction.endsOperand, (p.isGap b (hgap ▸ List.mem_cons_self)).1, Bool.true_or]
  have hword : ∀ c ∈ p.word, (!Instruction.endsOperand c) = true := fun c hc => by
    have hname := p.isNameByte_of_mem_word hc
    rw [Instruction.endsOperand, isBlank_of_isTame (by simp [isTame, hname]), Bool.false_or,
      beq_eq_false_iff_ne.mpr (ne_of_isNameByte hname rfl), Bool.not_false]
  have hstatement : p.statement = p.word ++ (p.gap ++ 0x22 :: (p.text ++ [0x22])) := by
    simp [statement, opening]
  have hkeyword : Instruction.keyword? p.statement = some .mailboxAppend := by
    rw [Instruction.keyword?, hstatement, List.takeWhile_append_of_pos hword, hgap,
      List.cons_append, List.takeWhile_cons_of_neg (by simp [hblank]), List.append_nil,
      p.ofWord?_word]
  have hbehind : Instruction.behindWord p.statement = p.gap ++ 0x22 :: (p.text ++ [0x22]) := by
    rw [Instruction.behindWord, hstatement, List.dropWhile_append_of_pos hword, hgap,
      List.cons_append, List.dropWhile_cons_of_neg (by simp [hblank])]
  have hquoted : Instruction.ofKeyword? resolve (Instruction.behindWord p.statement) .mailboxAppend
      (Instruction.operands p.statement) =
        (Instruction.quoted? (Instruction.behindWord p.statement)).map .mailboxAppend := rfl
  rw [Instruction.read_eq, hkeyword, Option.bind_some, hquoted, hbehind, p.quoted?_behindWord]
  rfl

end Print

/-! ## Statements in a row -/

/-- Whether a run always goes on at the next statement. -/
def Instruction.isStraight : Instruction → Bool
  | ret _ | jump _ | branch _ _ _ _ => false
  | _ => true

variable {σ : Type} {board : Pins.Board σ} {code : Array Instruction} {limit : UInt32}
  {watch : Run σ → Sample} {n : Nat}

theorem execute_of_isStraight {i : Instruction} (h : i.isStraight = true) (board : Pins.Board σ)
    (m : Machine σ) :
    m.execute board i = (.next, (m.execute board i).2) := by
  cases i with
  | ret | jump | branch => cases h
  | _ => rfl

/-- A machine after the first statements of a program, if the run goes straight on. -/
def Machine.along (board : Pins.Board σ) (code : Array Instruction) (m : Machine σ) (n : Nat) :
    Machine σ :=
  (code.toList.take n).foldl (fun m i => (m.execute board i).2) m

namespace Run

/-- A run that has gone straight on from the beginning. -/
def along (board : Pins.Board σ) (code : Array Instruction) (m : Machine σ) (n : Nat) : Run σ :=
  ⟨m.along board code n, n, n⟩

variable {m : Machine σ} (hc : ∀ i ∈ code, i.isStraight = true)

include hc

theorem step_along (hn : n < code.size) {sample : Sample} (hs : sample.stops limit = false) :
    (along board code m n).step board code limit sample = .inr (along board code m (n + 1)) := by
  have hi : code[n]? = some code[n] := Array.getElem?_eq_getElem hn
  have hlist : code.toList[n]? = some code[n] := by rw [Array.getElem?_toList, hi]
  have hnext : m.along board code (n + 1) =
      ((m.along board code n).execute board code[n]).2 := by
    rw [Machine.along, List.take_add_one, hlist, List.foldl_append]
    rfl
  have hgoes := execute_of_isStraight (hc _ (Array.getElem_mem hn)) board (m.along board code n)
  rw [step_of_goes_on (r := along board code m n) hi hs, perform, along, hgoes, along, hnext]

/-- A straight run comes to each statement, unless a sample before it stops the run. -/
theorem reaches_along (hn : n ≤ code.size)
    (hw : ∀ k < n, (watch (along board code m k)).stops limit = false) :
    Reaches board code limit watch n (start m) (along board code m n) := by
  induction n with
  | zero => exact .refl _
  | succ n ih =>
    refine (ih (Nat.le_of_succ_le hn) fun k hk => hw k (Nat.lt_succ_of_lt hk)).snoc ?_
    exact step_along hc hn (hw n (Nat.lt_succ_self n))

/-- A straight run that no sample stops does every statement once and ends behind the last one. -/
theorem finish_of_straight (hw : ∀ k < code.size, (watch (along board code m k)).stops limit = false)
    {fuel : Nat} (hfuel : code.size < fuel) :
    (start m).finish board code limit watch fuel =
      some (⟨0, .fellOffEnd, code.size⟩, m.along board code code.size) := by
  have hover : (along board code m code.size).step board code limit
      (watch (along board code m code.size)) =
        .inl (⟨0, .fellOffEnd, code.size⟩, m.along board code code.size) := by
    rw [step_eq, along, Array.getElem?_eq_none (Nat.le_refl _)]
  exact (reaches_along hc (Nat.le_refl _) hw).finish_of_over hover hfuel

end Run

/-! ## Texts in a row -/

/-- A program that appends texts to the mailbox. -/
def appends (texts : List Bytes) : Array Instruction :=
  (texts.map Instruction.mailboxAppend).toArray

variable {texts : List Bytes}

@[simp] theorem size_appends (texts : List Bytes) : (appends texts).size = texts.length := by
  simp [appends]

theorem isStraight_of_mem_appends {i : Instruction} (h : i ∈ appends texts) :
    i.isStraight = true := by
  obtain ⟨s, -, rfl⟩ := List.mem_map.mp (List.mem_toArray.mp h)
  rfl

/-- Appending texts changes nothing but the mailbox. -/
theorem Machine.along_appends (board : Pins.Board σ) (m : Machine σ) (texts : List Bytes)
    (n : Nat) : m.along board (appends texts) n =
      { m with mailbox := (texts.take n).foldl Mailbox.append m.mailbox } := by
  rw [along, appends, List.toList_toArray, ← List.map_take]
  induction texts.take n generalizing m with
  | nil => rfl
  | cons s texts ih =>
    rw [List.map_cons, List.foldl_cons, ih]
    rfl

theorem Run.finish_of_appends {m : Machine σ}
    (hw : ∀ k < texts.length, (watch (along board (appends texts) m k)).stops limit = false)
    {fuel : Nat} (hfuel : texts.length < fuel) :
    (start m).finish board (appends texts) limit watch fuel =
      some (⟨0, .fellOffEnd, texts.length⟩,
        { m with mailbox := texts.foldl Mailbox.append m.mailbox }) := by
  rw [← size_appends texts] at hw hfuel
  rw [finish_of_straight (fun _ => isStraight_of_mem_appends) hw hfuel,
    Machine.along_appends, size_appends, List.take_length]

/-- A script that says prints, in whatever way it is laid out, appends their texts in order. -/
theorem IsScriptOf.parses_prints {iss : List (List Item)} {source : Bytes}
    (h : IsScriptOf iss source) {prints : List Print}
    (hsaid : saidStatements iss = prints.map Print.statement) (limits : Limits)
    (hs : prints.length ≤ limits.statements)
    (hl : ((saidLabels iss).map folded).dedup.length ≤ limits.labels) :
    ∃ p, Program.parse limits source = .ok p ∧
      p.instructions = appends (prints.map Print.text) := by
  obtain ⟨p, hp, htells⟩ := h.parses limits (by rwa [hsaid, List.length_map]) hl
  have hread : p.instructions.toList =
      (p.statements.toList.map (·.text)).map (Instruction.read p.resolve) := by
    rw [Program.instructions, Array.toList_map, List.map_map]
    rfl
  refine ⟨p, hp, Array.toList_inj.mp ?_⟩
  rw [hread, htells.statements, hsaid, appends, List.toList_toArray, List.map_map, List.map_map]
  exact List.map_congr_left fun q _ => q.read_statement p.resolve

end Script

end Coprocessor
