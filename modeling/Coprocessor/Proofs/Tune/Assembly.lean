import Coprocessor.Proofs.Script.Listing
import Coprocessor.Proofs.Script.Playing
import Coprocessor.Tune.Score

/-!
# The program of a score

The statements that the score of a tune stands for (`Tune.code`). A score that is a program
at all is that program (`Tune.instructions_score`) : its lines are read as they are written,
and the loop of a note goes on at its own label, since no other note has the same.
-/

namespace Coprocessor.Tune

open Script

/-! ## Statements -/

/-- Sets a pin to output. -/
def outputCode (pin : UInt32) : Instruction :=
  .pinMode (.constant pin.toInt32) .output

/-- Drives a pin high or low. -/
def levelCode (pin : UInt32) (high : Bool) : Instruction :=
  .digitalWrite (.constant pin.toInt32) (.constant (if high then 1 else 0))

/-- Waits for milliseconds. -/
def millisCode (n : Nat) : Instruction :=
  .waitMillis (.constant (.ofNat n))

/-- Waits for microseconds. -/
def microsCode (n : Nat) : Instruction :=
  .waitMicros (.constant (.ofNat n))

/-- The register that counts the periods of a note. -/
def counter : Register := ⟨1, by decide⟩

/-- Sets the number of periods. -/
def setCode (n : Nat) : Instruction :=
  .setRegister counter (.constant (.ofNat n))

/-- A line is a statement of some words, and the statement does something whatever labels there
are. -/
def Writes (l : Bytes) (i : Instruction) : Prop :=
  IsStatement l ∧ ∀ resolve, Instruction.read resolve l = i

theorem writes_of_words {l w : Bytes} {ws : List Bytes} {k : Keyword} {i : Instruction}
    (hk : Keyword.ofWord? w = some k) (hw : w.all Ascii.isNameByte = true)
    (hl : l = List.intercalate [0x20] (w :: ws)) (hne : ws ≠ []) (hws : ∀ v ∈ w :: ws, IsTameWord v)
    (hi : ∀ resolve text, Instruction.ofKeyword? resolve text k ws = some i) : Writes l i := by
  have written : IsWritten l w ws := ⟨hl, hne, List.all_eq_true.mp hw, hws⟩
  refine ⟨⟨w, ws, written⟩, fun resolve => ?_⟩
  rw [written.read hk, hi]
  rfl

theorem isTameWord_numeral (n : Nat) : IsTameWord (numeral n) :=
  isTameWord_digits n

theorem read_numeral (n : Nat) : Operand.read (numeral n) = .constant (.ofNat n) :=
  read_digits n

theorem read_pin (pin : UInt32) : Operand.read (numeral pin.toNat) = .constant pin.toInt32 := by
  rw [read_numeral, ← UInt32.toInt32_ofNat', UInt32.ofNat_toNat]

theorem register?_counter : register? (Bytes.ofText "R1") = some counter := by
  decide

theorem writes_output (pin : UInt32) : Writes (outputLine pin) (outputCode pin) := by
  have mode : Pins.Mode.read (Bytes.ofText "OUTPUT") = .output := by decide
  refine writes_of_words (k := .pinMode) (by decide) (by decide) rfl (List.cons_ne_nil _ _) ?_
    fun resolve text => ?_
  · simp only [List.forall_mem_cons]
    exact ⟨.of_all (by decide), isTameWord_numeral _, .of_all (by decide), List.forall_mem_nil _⟩
  · simp only [Instruction.ofKeyword?, read_pin, mode, outputCode]

theorem writes_level (pin : UInt32) (high : Bool) :
    Writes (levelLine pin high) (levelCode pin high) := by
  have level : Operand.read (Bytes.ofText (if high then "HIGH" else "LOW")) =
      .constant (if high then 1 else 0) := by cases high <;> decide
  refine writes_of_words (k := .digitalWrite) (by decide) (by decide) rfl (List.cons_ne_nil _ _) ?_
    fun resolve text => ?_
  · simp only [List.forall_mem_cons]
    exact ⟨.of_all (by decide), isTameWord_numeral _, .of_all (by cases high <;> decide),
      List.forall_mem_nil _⟩
  · simp only [Instruction.ofKeyword?, read_pin, level, levelCode]

theorem writes_millis (n : Nat) : Writes (millisLine n) (millisCode n) := by
  refine writes_of_words (k := .waitMillis) (by decide) (by decide) rfl (List.cons_ne_nil _ _) ?_
    fun resolve text => ?_
  · simp only [List.forall_mem_cons]
    exact ⟨.of_all (by decide), isTameWord_numeral _, List.forall_mem_nil _⟩
  · simp only [Instruction.ofKeyword?, read_numeral, millisCode]

theorem writes_micros (n : Nat) : Writes (microsLine n) (microsCode n) := by
  refine writes_of_words (k := .waitMicros) (by decide) (by decide) rfl (List.cons_ne_nil _ _) ?_
    fun resolve text => ?_
  · simp only [List.forall_mem_cons]
    exact ⟨.of_all (by decide), isTameWord_numeral _, List.forall_mem_nil _⟩
  · simp only [Instruction.ofKeyword?, read_numeral, microsCode]

theorem writes_set (n : Nat) :
    Writes (statement [Bytes.ofText "LET R1", numeral n]) (setCode n) := by
  have words : Bytes.ofText "LET R1" = Bytes.ofText "LET" ++ [0x20] ++ Bytes.ofText "R1" := by
    decide
  refine @writes_of_words _ (Bytes.ofText "LET") [Bytes.ofText "R1", numeral n] .setRegister _
    (by decide) (by decide) ?_ (List.cons_ne_nil _ _) ?_ fun resolve text => ?_
  · rw [statement, words]
    simp only [List.intercalate_cons_cons, List.intercalate_singleton, List.append_assoc]
  · simp only [List.forall_mem_cons]
    exact ⟨.of_all (by decide), .of_all (by decide), isTameWord_numeral _, List.forall_mem_nil _⟩
  · simp only [Instruction.ofKeyword?, read_numeral, register?_counter, setCode]
    rfl

theorem writes_return : Writes (Bytes.ofText "RET 0") (.ret (.constant 0)) := by
  refine @writes_of_words _ (Bytes.ofText "RET") [Bytes.ofText "0"] .ret _ (by decide)
    (by decide) (by decide) (List.cons_ne_nil _ _) ?_ fun resolve text => ?_
  · simp only [List.forall_mem_cons]
    exact ⟨.of_all (by decide), .of_all (by decide), List.forall_mem_nil _⟩
  · have value : Operand.read (Bytes.ofText "0") = .constant 0 := by decide
    simp only [Instruction.ofKeyword?, value]

theorem writes_subtract :
    Writes (Bytes.ofText "SUB R1 1") (.subtract counter (.constant 1)) := by
  refine @writes_of_words _ (Bytes.ofText "SUB") [Bytes.ofText "R1", Bytes.ofText "1"] .subtract _
    (by decide) (by decide) (by decide)
    (List.cons_ne_nil _ _) ?_ fun resolve text => ?_
  · simp only [List.forall_mem_cons]
    exact ⟨.of_all (by decide), .of_all (by decide), .of_all (by decide), List.forall_mem_nil _⟩
  · have value : Operand.read (Bytes.ofText "1") = .constant 1 := by decide
    simp only [Instruction.ofKeyword?, value, register?_counter]
    rfl

/-! ## Labels -/

theorem loopLabel_eq (index : Nat) : loopLabel index = 0x6E :: numeral index := by
  have name : Bytes.ofText "n" = [0x6E] := by decide
  rw [loopLabel, name]
  rfl

theorem isNameByte_of_mem_loopLabel {index : Nat} {b : UInt8} (hb : b ∈ loopLabel index) :
    Ascii.isNameByte b = true := by
  rw [loopLabel_eq] at hb
  rcases List.mem_cons.mp hb with rfl | hb
  · rfl
  · simp [Ascii.isNameByte, Numeral.isDigit_of_mem_digits hb]

/-- The notes have different labels. -/
theorem sameWord_loopLabel {i j : Nat} :
    Ascii.sameWord (loopLabel i) (loopLabel j) = true ↔ i = j := by
  have fold : ∀ n, (loopLabel n).map Ascii.fold = loopLabel n := fun n => by
    rw [loopLabel_eq, List.map_cons, numeral, map_fold_digits]
    rfl
  rw [Ascii.sameWord, fold, fold, beq_iff_eq, loopLabel_eq, loopLabel_eq, List.cons_inj_right]
  exact ⟨Numeral.digits_inj, fun h => h ▸ rfl⟩

/-- The line that goes on with a loop. -/
def branchLine (index : Nat) : Bytes :=
  Bytes.ofText "IF R1 > 0 GOTO " ++ loopLabel index

theorem written_branch (index : Nat) : IsWritten (branchLine index) (Bytes.ofText "IF")
    [Bytes.ofText "R1", Bytes.ofText ">", Bytes.ofText "0", Bytes.ofText "GOTO",
      loopLabel index] where
  eq_intercalate := by
    have words : Bytes.ofText "IF R1 > 0 GOTO " = List.intercalate [0x20] [Bytes.ofText "IF",
      Bytes.ofText "R1", Bytes.ofText ">", Bytes.ofText "0", Bytes.ofText "GOTO", []] := by decide
    rw [branchLine, words]
    simp only [List.intercalate_cons_cons, List.intercalate_singleton, List.append_assoc,
      List.nil_append]
  operands := List.cons_ne_nil _ _
  keyword := List.all_eq_true.mp (by decide)
  words := by
    have label : IsTameWord (loopLabel index) :=
      ⟨loopLabel_eq index ▸ List.cons_ne_nil _ _, fun b hb => by
        simp [isTame, isNameByte_of_mem_loopLabel hb]⟩
    simp only [List.forall_mem_cons]
    exact ⟨.of_all (by decide), .of_all (by decide), .of_all (by decide), .of_all (by decide),
      .of_all (by decide), label, List.forall_mem_nil _⟩

/-- The line goes on where the label of the loop is. -/
theorem read_branch {resolve : Bytes → Option Nat} {index start : Nat}
    (hr : resolve (loopLabel index) = some start) :
    Instruction.read resolve (branchLine index) =
      .branch (.register counter) .gt (.constant 0) (some start) := by
  have goto : Ascii.isWord "GOTO" (Bytes.ofText "GOTO") = true := by decide
  have left : Operand.read (Bytes.ofText "R1") = .register counter := by decide
  have right : Operand.read (Bytes.ofText "0") = .constant 0 := by decide
  have sign : Comparison.ofToken? (Bytes.ofText ">") = some .gt := by decide
  rw [(written_branch index).read (k := .branch) (by decide)]
  simp only [Instruction.ofKeyword?, goto, left, right, sign, hr, if_true, Option.map_some,
    Option.getD_some]

/-! ## Code of notes -/

/-- Waits for the duration of a rest. -/
def restCode (micros : Nat) : List Instruction :=
  (if micros / 1000 = 0 then [] else [millisCode (micros / 1000)]) ++
    (if micros % 1000 = 0 then [] else [microsCode (micros % 1000)])

/-- Drives the lamp, if there is one. -/
def lampCode (t : Tune) (high : Bool) : List Instruction :=
  if t.hasLamp then [levelCode t.lamp high] else []

/-- One period of a note. -/
def periodCode (buzzer : UInt32) (half : Nat) : List Instruction :=
  [levelCode buzzer true, microsCode half, levelCode buzzer false, microsCode half]

/-- A note that sounds, its first statement being at some place. -/
def soundCode (t : Tune) (half place : Nat) (n : Note) : List Instruction :=
  lampCode t true ++ ([setCode (cycles half n)] ++ (periodCode t.buzzer half ++
    Run.countdown counter (place + (lampCode t true).length + 1))) ++ lampCode t false

/-- The pause after a note. -/
def gapCode (t : Tune) : List Instruction :=
  if t.gap = 0 then [] else [millisCode t.gap.toNat]

/-- A note and the pause after it, its first statement being at some place. -/
def noteCode (halfPeriod : UInt8 → Nat) (t : Tune) (place : Nat) (n : Note) : List Instruction :=
  (if n.isRest then restCode n.duration.toNat
    else soundCode t (halfPeriod n.pitch) place n) ++ gapCode t

/-- Notes, the first statement of the first being at some place. -/
def notesCode (halfPeriod : UInt8 → Nat) (t : Tune) (place : Nat) : List Note → List Instruction
  | [] => []
  | n :: ns => noteCode halfPeriod t place n ++
    notesCode halfPeriod t (place + (noteCode halfPeriod t place n).length) ns

/-- The statements before the notes. -/
def openingCode (t : Tune) : List Instruction :=
  outputCode t.buzzer :: if t.hasLamp then [outputCode t.lamp] else []

/-- The statements of a tune. -/
def code (halfPeriod : UInt8 → Nat) (t : Tune) : List Instruction :=
  openingCode t ++ notesCode halfPeriod t (openingCode t).length t.notes ++ [.ret (.constant 0)]

/-! ## Lines -/

/-- Lines that are statements write code. -/
abbrev WriteAll (ls : List Bytes) (is : List Instruction) : Prop :=
  List.Forall₂ Writes ls is

variable {ls ls' : List Bytes} {is is' : List Instruction}

theorem WriteAll.append (h : WriteAll ls is) (h' : WriteAll ls' is') :
    WriteAll (ls ++ ls') (is ++ is') :=
  List.rel_append h h'

theorem WriteAll.isStatement (h : WriteAll ls is) : ∀ l ∈ ls, IsStatement l := by
  induction h with
  | nil => exact List.forall_mem_nil _
  | cons hl _ ih => exact List.forall_mem_cons.mpr ⟨hl.1, ih⟩

theorem WriteAll.map_read (h : WriteAll ls is) (resolve : Bytes → Option Nat) :
    ls.map (Instruction.read resolve) = is := by
  induction h with
  | nil => rfl
  | cons hl _ ih => rw [List.map_cons, hl.2 resolve, ih]

/-- Either a line that is a statement or none. -/
theorem writeAll_ite {p : Prop} [Decidable p] {l : Bytes} {i : Instruction} (h : Writes l i) :
    WriteAll (if p then [] else [l]) (if p then [] else [i]) := by
  split
  · exact .nil
  · exact .cons h .nil

theorem writeAll_rest (micros : Nat) : WriteAll (restLines micros) (restCode micros) :=
  (writeAll_ite (writes_millis _)).append (writeAll_ite (writes_micros _))

/-- The lines for the pause after a note. -/
def gapLines (t : Tune) : List Bytes :=
  if t.gap = 0 then [] else [millisLine t.gap.toNat]

theorem writeAll_gap (t : Tune) : WriteAll (gapLines t) (gapCode t) :=
  writeAll_ite (writes_millis _)

/-- The lines that drive the lamp. -/
def lampLines (t : Tune) (high : Bool) : List Bytes :=
  if t.hasLamp then [levelLine t.lamp high] else []

theorem writeAll_lamp (t : Tune) (high : Bool) : WriteAll (lampLines t high) (lampCode t high) := by
  unfold lampLines lampCode
  split
  · exact .cons (writes_level _ _) .nil
  · exact .nil

/-- The statements of a loop but the last. -/
def periodLines (buzzer : UInt32) (half : Nat) : List Bytes :=
  [levelLine buzzer true, microsLine half, levelLine buzzer false, microsLine half,
    Bytes.ofText "SUB R1 1"]

theorem writeAll_period (buzzer : UInt32) (half : Nat) : WriteAll (periodLines buzzer half)
    (periodCode buzzer half ++ [.subtract counter (.constant 1)]) :=
  .cons (writes_level _ _) (.cons (writes_micros _) (.cons (writes_level _ _)
    (.cons (writes_micros _) (.cons writes_subtract .nil))))

/-- The items of the line with the loop of a note, after the first. -/
def laterItems (buzzer : UInt32) (half index : Nat) : List Bytes :=
  [microsLine half, levelLine buzzer false, microsLine half, Bytes.ofText "SUB R1 1",
    branchLine index]

theorem isStatement_of_mem_laterItems {buzzer : UInt32} {half index : Nat} :
    ∀ l ∈ laterItems buzzer half index, IsStatement l := by
  simp only [laterItems, List.forall_mem_cons]
  exact ⟨(writes_micros _).1, (writes_level _ _).1, (writes_micros _).1, writes_subtract.1,
    ⟨_, _, written_branch index⟩, List.forall_mem_nil _⟩

/-- The items of the line with the loop of a note. -/
def loopItems (buzzer : UInt32) (half index : Nat) : List Bytes :=
  (loopLabel index ++ 0x3A :: 0x20 :: levelLine buzzer true) ::
    (laterItems buzzer half index).map (0x20 :: ·)

theorem loopLine_eq (buzzer : UInt32) (half index : Nat) :
    loopLine buzzer half index = List.intercalate [0x3B] (loopItems buzzer half index) := by
  have colon : Bytes.ofText ": " = [0x3A, 0x20] := by decide
  have semicolon : Bytes.ofText "; " = [0x3B, 0x20] := by decide
  rw [loopLine, colon, semicolon]
  simp [List.intercalate_cons_cons, List.intercalate_singleton, branchLine, loopItems, laterItems]

theorem mem_loopItems {buzzer : UInt32} {half index : Nat} {p : Bytes}
    (hp : p ∈ loopItems buzzer half index) {b : UInt8} (hb : b ∈ p) :
    isTame b = true ∨ b = 0x20 ∨ b = 0x3A := by
  rcases List.mem_cons.mp hp with rfl | hp
  · obtain ⟨w, ws, first⟩ := (writes_level buzzer true).1
    rcases List.mem_append.mp hb with hb | hb
    · exact .inl (by simp [isTame, isNameByte_of_mem_loopLabel hb])
    rcases List.mem_cons.mp hb with rfl | hb
    · exact .inr (.inr rfl)
    rcases List.mem_cons.mp hb with rfl | hb
    · exact .inr (.inl rfl)
    · exact (first.isTame_or_blank hb).imp_right .inl
  · obtain ⟨l, hl, rfl⟩ := List.mem_map.mp hp
    obtain ⟨w, ws, written⟩ := isStatement_of_mem_laterItems l hl
    rcases List.mem_cons.mp hb with rfl | hb
    · exact .inr (.inl rfl)
    · exact (written.isTame_or_blank hb).imp_right .inl

theorem inLine_loop (buzzer : UInt32) (half index : Nat) :
    ∀ b ∈ loopLine buzzer half index, IsInLine b := by
  intro b hb
  rw [loopLine_eq] at hb
  rcases mem_intercalate hb with hb | ⟨p, hp, hb⟩
  · rw [List.mem_singleton.mp hb]
    decide
  · rcases mem_loopItems hp hb with hb | rfl | rfl
    · exact isInLine_of_isTame hb
    · decide
    · decide

/-- The loop of a note is a label and statements. -/
theorem linePieces_loop (buzzer : UInt32) (half index : Nat) :
    linePieces (loopLine buzzer half index) =
      .label (loopLabel index) :: statements (periodLines buzzer half ++ [branchLine index]) := by
  have plain : ∀ p ∈ loopItems buzzer half index, ∀ b ∈ p, IsPlain b := by
    intro p hp b hb
    rcases mem_loopItems hp hb with hb | rfl | rfl
    · exact isPlain_of_isTame hb
    · decide
    · decide
  obtain ⟨w, ws, first⟩ := (writes_level buzzer true).1
  have label : itemPieces (loopLabel index ++ 0x3A :: 0x20 :: levelLine buzzer true) =
      .label (loopLabel index) :: statements [levelLine buzzer true] := by
    have hname := fun b => @isNameByte_of_mem_loopLabel index b
    rw [loopLabel_eq] at hname ⊢
    rw [itemPieces_label rfl hname, itemPieces_blank rfl, first.itemPieces]
    rfl
  rw [loopLine_eq, linePieces_plain plain (List.cons_ne_nil _ _), loopItems, List.flatMap_cons,
    label, List.flatMap_map, List.flatMap_congr fun l _ => itemPieces_blank rfl l,
    flatMap_itemPieces isStatement_of_mem_laterItems]
  rfl

/-! ## Pieces of notes -/

/-- The lines before the loop of a note. -/
def leadLines (t : Tune) (half : Nat) (n : Note) : List Bytes :=
  lampLines t true ++ [statement [Bytes.ofText "LET R1", numeral (cycles half n)]]

theorem writeAll_lead (t : Tune) (half : Nat) (n : Note) :
    WriteAll (leadLines t half n) (lampCode t true ++ [setCode (cycles half n)]) :=
  (writeAll_lamp t true).append (.cons (writes_set _) .nil)

/-- The pieces of the lines of a note. -/
def notePieces (halfPeriod : UInt8 → Nat) (t : Tune) (index : Nat) (n : Note) : List Piece :=
  (noteLines halfPeriod t index n).flatMap linePieces

variable {halfPeriod : UInt8 → Nat} {t : Tune} {n : Note}

theorem noteLines_of_rest (hn : n.isRest = true) (index : Nat) :
    noteLines halfPeriod t index n = restLines n.duration.toNat ++ gapLines t := by
  rw [noteLines, if_pos hn]
  rfl

theorem noteLines_of_sound (hn : n.isRest = false) (index : Nat) :
    noteLines halfPeriod t index n = leadLines t (halfPeriod n.pitch) n ++
      loopLine t.buzzer (halfPeriod n.pitch) index :: (lampLines t false ++ gapLines t) := by
  rw [noteLines, if_neg (Bool.eq_false_iff.mp hn), soundLines, leadLines]
  simp only [List.append_assoc, List.cons_append, List.nil_append]
  rfl

theorem notePieces_of_rest (hn : n.isRest = true) (index : Nat) :
    notePieces halfPeriod t index n = statements (restLines n.duration.toNat ++ gapLines t) := by
  rw [notePieces, noteLines_of_rest hn,
    flatMap_linePieces ((writeAll_rest n.duration.toNat).append (writeAll_gap t)).isStatement]

theorem notePieces_of_sound (hn : n.isRest = false) (index : Nat) :
    notePieces halfPeriod t index n = statements (leadLines t (halfPeriod n.pitch) n) ++
      .label (loopLabel index) :: statements
        (periodLines t.buzzer (halfPeriod n.pitch) ++ [branchLine index] ++
          (lampLines t false ++ gapLines t)) := by
  rw [notePieces, noteLines_of_sound hn, List.flatMap_append, List.flatMap_cons, linePieces_loop,
    flatMap_linePieces (writeAll_lead t (halfPeriod n.pitch) n).isStatement,
    flatMap_linePieces ((writeAll_lamp t false).append (writeAll_gap t)).isStatement]
  simp only [statements, List.map_append, List.map_cons, List.map_nil, List.cons_append,
    List.nil_append, List.append_assoc]

/-- The labels among the pieces of a note. -/
theorem eq_of_label_mem {index : Nat} {l : Bytes}
    (h : .label l ∈ notePieces halfPeriod t index n) : l = loopLabel index := by
  cases hn : n.isRest with
  | true =>
    rw [notePieces_of_rest hn] at h
    exact absurd h (label_not_mem_statements _ _)
  | false =>
    rw [notePieces_of_sound hn, List.mem_append, List.mem_cons] at h
    rcases h with h | h | h
    · exact absurd h (label_not_mem_statements _ _)
    · exact Piece.label.inj h
    · exact absurd h (label_not_mem_statements _ _)

/-! ## The program -/

/-- A note among other pieces is read as its code, if no label before has the same name. -/
theorem read_note {before after : List Piece} {index : Nat}
    (hb : ∀ l, .label l ∈ before → Ascii.sameWord l (loopLabel index) = false) :
    (texts (notePieces halfPeriod t index n)).map (Instruction.read
      (locate · (before ++ (notePieces halfPeriod t index n ++ after)))) =
        noteCode halfPeriod t (texts before).length n := by
  cases hn : n.isRest with
  | true =>
    rw [notePieces_of_rest hn, texts_statements, noteCode, if_pos hn]
    exact ((writeAll_rest n.duration.toNat).append (writeAll_gap t)).map_read _
  | false =>
    have lead := writeAll_lead t (halfPeriod n.pitch) n
    have hlead : (leadLines t (halfPeriod n.pitch) n).length = (lampCode t true).length + 1 := by
      rw [lead.length_eq, List.length_append, List.length_singleton]
    have hstart : locate (loopLabel index) (before ++ (notePieces halfPeriod t index n ++ after)) =
        some ((texts before).length + (lampCode t true).length + 1) := by
      rw [locate_append_of_new hb, notePieces_of_sound hn, List.append_assoc, locate_append_of_new
        (fun l hl => absurd hl (label_not_mem_statements _ _)), List.cons_append, locate,
        if_pos (sameWord_loopLabel.mpr rfl), texts_statements, hlead]
      simp only [Option.map_some, Nat.add_zero, Nat.add_assoc]
    have hbranch := @read_branch
      (locate · (before ++ (notePieces halfPeriod t index n ++ after))) _ _ hstart
    have htexts : texts (notePieces halfPeriod t index n) =
        leadLines t (halfPeriod n.pitch) n ++ (periodLines t.buzzer (halfPeriod n.pitch) ++
          [branchLine index] ++ (lampLines t false ++ gapLines t)) := by
      rw [notePieces_of_sound hn, texts_append, texts, texts_statements, texts_statements]
    rw [noteCode, if_neg (Bool.eq_false_iff.mp hn), soundCode, htexts, List.map_append,
      List.map_append, List.map_append, lead.map_read, (writeAll_period _ _).map_read,
      List.map_singleton, hbranch, ((writeAll_lamp t false).append (writeAll_gap t)).map_read]
    simp only [Run.countdown, List.append_assoc, List.cons_append, List.nil_append]

/-- The pieces of notes, the first of which has some number. -/
def notesPieces (halfPeriod : UInt8 → Nat) (t : Tune) (index : Nat) (ns : List Note) :
    List Piece :=
  (ns.mapIdx fun j n => notePieces halfPeriod t (index + j) n).flatten

theorem notesPieces_cons (index : Nat) (n : Note) (ns : List Note) :
    notesPieces halfPeriod t index (n :: ns) =
      notePieces halfPeriod t index n ++ notesPieces halfPeriod t (index + 1) ns := by
  simp only [notesPieces, List.mapIdx_cons, List.flatten_cons, Nat.add_zero, Nat.add_assoc,
    Nat.add_comm 1]

theorem flatMap_notes (index : Nat) (ns : List Note) :
    (ns.mapIdx fun j n => noteLines halfPeriod t (index + j) n).flatten.flatMap linePieces =
      notesPieces halfPeriod t index ns := by
  induction ns generalizing index with
  | nil => rfl
  | cons n ns ih =>
    rw [notesPieces_cons, ← ih (index + 1), List.mapIdx_cons, List.flatten_cons,
      List.flatMap_append, notePieces]
    simp only [Nat.add_zero, Nat.add_assoc, Nat.add_comm 1]

/-- Notes among other pieces are read as their code. -/
theorem read_notes {ns : List Note} {before after : List Piece} {index : Nat}
    (hb : ∀ l, .label l ∈ before → ∃ j < index, l = loopLabel j) :
    (texts (notesPieces halfPeriod t index ns)).map (Instruction.read
      (locate · (before ++ (notesPieces halfPeriod t index ns ++ after)))) =
        notesCode halfPeriod t (texts before).length ns := by
  induction ns generalizing before index with
  | nil => rfl
  | cons n ns ih =>
    have hdifferent : ∀ l, .label l ∈ before → Ascii.sameWord l (loopLabel index) = false := by
      intro l hl
      obtain ⟨j, hj, rfl⟩ := hb l hl
      exact Bool.eq_false_iff.mpr fun h => Nat.ne_of_lt hj (sameWord_loopLabel.mp h)
    have hnote := @read_note halfPeriod t n before
      (notesPieces halfPeriod t (index + 1) ns ++ after) index hdifferent
    have hbefore : ∀ l, .label l ∈ before ++ notePieces halfPeriod t index n →
        ∃ j < index + 1, l = loopLabel j := by
      intro l hl
      rcases List.mem_append.mp hl with hl | hl
      · obtain ⟨j, hj, hjl⟩ := hb l hl
        exact ⟨j, Nat.lt_succ_of_lt hj, hjl⟩
      · exact ⟨index, Nat.lt_succ_self _, eq_of_label_mem hl⟩
    have hnotes := ih hbefore
    have hlength := congrArg List.length hnote
    rw [List.length_map] at hlength
    rw [texts_append, List.length_append, hlength, List.append_assoc] at hnotes
    rw [notesPieces_cons, List.append_assoc, texts_append, List.map_append, hnote, hnotes]
    rfl

theorem WriteAll.inLine (h : WriteAll ls is) : ∀ l ∈ ls, ∀ b ∈ l, IsInLine b := by
  intro l hl
  obtain ⟨w, ws, written⟩ := h.isStatement l hl
  exact written.inLine

theorem inLine_note (index : Nat) :
    ∀ l ∈ noteLines halfPeriod t index n, ∀ b ∈ l, IsInLine b := by
  cases hn : n.isRest with
  | true =>
    rw [noteLines_of_rest hn]
    exact ((writeAll_rest n.duration.toNat).append (writeAll_gap t)).inLine
  | false =>
    rw [noteLines_of_sound hn, List.forall_mem_append, List.forall_mem_cons]
    exact ⟨(writeAll_lead t (halfPeriod n.pitch) n).inLine, inLine_loop _ _ _,
      ((writeAll_lamp t false).append (writeAll_gap t)).inLine⟩

/-- The comment that the score begins with. -/
def titleLine (t : Tune) : Bytes :=
  statement [Bytes.ofText "#", numeral t.notes.length, Bytes.ofText "notes"]

theorem inLine_title (t : Tune) : ∀ b ∈ titleLine t, IsInLine b := by
  have mark : Bytes.ofText "#" = [0x23] := by decide
  have noun : IsTameWord (Bytes.ofText "notes") := .of_all (by decide)
  intro b hb
  rcases mem_intercalate hb with hb | ⟨w, hw, hb⟩
  · rw [List.mem_singleton.mp hb]
    decide
  · simp only [List.mem_cons, List.not_mem_nil, or_false] at hw
    rcases hw with rfl | rfl | rfl
    · rw [mark] at hb
      rw [List.mem_singleton.mp hb]
      decide
    · exact isInLine_of_isTame ((isTameWord_numeral _).tame b hb)
    · exact isInLine_of_isTame (noun.tame b hb)

/-- The lines before the notes. -/
def openingLines (t : Tune) : List Bytes :=
  outputLine t.buzzer :: if t.hasLamp then [outputLine t.lamp] else []

theorem writeAll_opening (t : Tune) : WriteAll (openingLines t) (openingCode t) := by
  refine .cons (writes_output _) ?_
  split
  · exact .cons (writes_output _) .nil
  · exact .nil

theorem scoreLines_eq (halfPeriod : UInt8 → Nat) (t : Tune) : t.scoreLines halfPeriod =
    titleLine t :: (openingLines t ++
      ((t.notes.mapIdx (noteLines halfPeriod t)).flatten ++ [Bytes.ofText "RET 0"])) := by
  simp [scoreLines, titleLine, openingLines]

/-- The pieces of a score. -/
theorem unplaced_score (halfPeriod : UInt8 → Nat) (t : Tune) :
    (pieces (t.scoreWith halfPeriod)).map Piece.unplaced =
      statements (openingLines t) ++
        (notesPieces halfPeriod t 0 t.notes ++ statements [Bytes.ofText "RET 0"]) := by
  have last : WriteAll [Bytes.ofText "RET 0"] _ := .cons writes_return .nil
  have inLine : ∀ l ∈ t.scoreLines halfPeriod, ∀ b ∈ l, IsInLine b := by
    rw [scoreLines_eq, List.forall_mem_cons, List.forall_mem_append, List.forall_mem_append]
    refine ⟨inLine_title t, (writeAll_opening t).inLine, fun l hl => ?_, last.inLine⟩
    obtain ⟨lines, hlines, hl⟩ := List.mem_flatten.mp hl
    obtain ⟨i, hi, rfl⟩ := List.mem_mapIdx.mp hlines
    exact inLine_note i l hl
  have title : linePieces (titleLine t) = [] := linePieces_comment _
  have notes := @flatMap_notes halfPeriod t 0 t.notes
  simp only [Nat.zero_add] at notes
  rw [scoreWith, unplaced_pieces inLine, scoreLines_eq, List.flatMap_cons, title,
    List.flatMap_append, List.flatMap_append, flatMap_linePieces (writeAll_opening t).isStatement,
    notes, flatMap_linePieces last.isStatement, List.nil_append]

/-- A score that is a program does what the tune says. -/
theorem instructions_score {limits : Limits} {p : Program}
    (h : Program.parse limits (t.scoreWith halfPeriod) = .ok p) :
    p.instructions.toList = t.code halfPeriod := by
  have htexts := texts_unplaced (pieces (t.scoreWith halfPeriod))
  have hlocate : (locate · (pieces (t.scoreWith halfPeriod))) = _ :=
    funext fun name => (locate_unplaced name _).symm
  rw [instructions_of_parse h, ← htexts, hlocate, unplaced_score]
  have hnotes := @read_notes halfPeriod t t.notes (statements (openingLines t))
    (statements [Bytes.ofText "RET 0"]) 0 fun l hl => absurd hl (label_not_mem_statements _ _)
  rw [texts_statements, (writeAll_opening t).length_eq] at hnotes
  rw [texts_append, texts_append, texts_statements, texts_statements, List.map_append,
    List.map_append, (writeAll_opening t).map_read, hnotes, List.map_singleton, writes_return.2,
    code, List.append_assoc]

end Coprocessor.Tune
