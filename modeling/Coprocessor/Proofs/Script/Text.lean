import Coprocessor.Proofs.Wire.Decimal
import Coprocessor.Script.Piece
import Mathlib.Data.List.Basic
import Mathlib.Data.List.DropRight
import Mathlib.Data.List.TakeWhile

/-!
# The text of a script

A script that is written line by line is read line by line : its pieces are those that its
lines say (`unplaced_pieces`), whatever the places of the lines are. A line of plain items
between semicolons says what its items say (`linePieces_plain`), and an item is a statement
(`itemPieces_statement`) or begins with a label (`itemPieces_label`).
-/

namespace Coprocessor.Script

/-! ## Lines -/

/-- Whether a byte is neither the end of a line nor that of the script. -/
abbrev IsInLine (b : UInt8) : Prop :=
  b ≠ 0x0A ∧ b ≠ 0

theorem linesFrom_line {l : Bytes} (hl : ∀ b ∈ l, IsInLine b) (start : Nat) (line rest : Bytes) :
    ∃ start', linesFrom start line (l ++ 0x0A :: rest) =
      ⟨start, line.reverse ++ l⟩ :: linesFrom start' [] rest := by
  induction l generalizing line with
  | nil => exact ⟨start + line.length + 1, by simp [linesFrom]⟩
  | cons b l ih =>
    obtain ⟨start', h⟩ := ih (fun b hb => hl b (List.mem_cons_of_mem _ hb)) (b :: line)
    refine ⟨start', ?_⟩
    rw [List.cons_append, linesFrom, if_neg (hl b List.mem_cons_self).1, h]
    simp

/-- No line holds the end of a line or that of the script. -/
theorem isInLine_of_mem_linesFrom {start : Nat} {line s : Bytes} {l : Stretch} (hs : ∀ b ∈ s, b ≠ 0)
    (hline : ∀ b ∈ line, IsInLine b) (hl : l ∈ linesFrom start line s) :
    ∀ b ∈ l.text, IsInLine b := by
  induction s generalizing start line with
  | nil =>
    obtain rfl := List.mem_singleton.mp hl
    exact fun b hb => hline b (List.mem_reverse.mp hb)
  | cons b s ih =>
    obtain ⟨hb, hs⟩ := List.forall_mem_cons.mp hs
    rw [linesFrom] at hl
    split at hl
    case isTrue =>
      rcases List.mem_cons.mp hl with rfl | hl
      · exact fun b hb => hline b (List.mem_reverse.mp hb)
      · exact ih hs (List.forall_mem_nil _) hl
    case isFalse hend => exact ih hs (List.forall_mem_cons.mpr ⟨⟨hend, hb⟩, hline⟩) hl

theorem isInLine_of_mem_lines {source : Bytes} {l : Stretch} (hl : l ∈ lines source) :
    ∀ b ∈ l.text, IsInLine b :=
  isInLine_of_mem_linesFrom (fun b hb => by simpa using List.mem_takeWhile_imp hb)
    (List.forall_mem_nil _) hl

/-- A text that is written line by line has these lines, and an empty one after the last. -/
theorem lines_written {ls : List Bytes} (hls : ∀ l ∈ ls, ∀ b ∈ l, IsInLine b) :
    (lines (ls.flatMap (· ++ [0x0A]))).map (·.text) = ls ++ [[]] := by
  have hnul : (ls.flatMap (· ++ [0x0A])).takeWhile (· != 0) = ls.flatMap (· ++ [0x0A]) := by
    refine List.takeWhile_eq_self_iff.mpr fun b hb => ?_
    obtain ⟨l, hl, hb⟩ := List.mem_flatMap.mp hb
    rcases List.mem_append.mp hb with hb | hb
    · simpa using (hls l hl b hb).2
    · rw [List.mem_singleton.mp hb]
      rfl
  have written : ∀ (ls : List Bytes), (∀ l ∈ ls, ∀ b ∈ l, IsInLine b) → ∀ start,
      (linesFrom start [] (ls.flatMap (· ++ [0x0A]))).map (·.text) = ls ++ [[]] := by
    intro ls
    induction ls with
    | nil => exact fun _ _ => rfl
    | cons l ls ih =>
      intro hls start
      obtain ⟨start', h⟩ := linesFrom_line (hls l List.mem_cons_self) start []
        (ls.flatMap (· ++ [0x0A]))
      rw [List.flatMap_cons, List.append_assoc, List.singleton_append, h, List.map_cons,
        ih fun l hl => hls l (List.mem_cons_of_mem _ hl)]
      rfl
  rw [lines, hnul]
  exact written ls hls 0

/-! ## Items -/

/-- Whether a byte has no meaning of its own in a line : it opens no quote, begins no comment
and ends no item. -/
abbrev IsPlain (b : UInt8) : Prop :=
  b ≠ 0x22 ∧ b ≠ 0x23 ∧ b ≠ 0x2F ∧ b ≠ 0x3B

theorem itemsFrom_plain {s : Bytes} (hs : ∀ b ∈ s, IsPlain b) (start : Nat) (item rest : Bytes) :
    itemsFrom false start item (s ++ rest) = itemsFrom false start (s.reverse ++ item) rest := by
  induction s generalizing item with
  | nil => rfl
  | cons b s ih =>
    obtain ⟨hquote, hhash, hslash, hend⟩ := hs b List.mem_cons_self
    have hcomment : beginsComment b (s ++ rest) = false := by simp [beginsComment, hhash, hslash]
    rw [List.cons_append, itemsFrom, if_neg hquote, if_neg Bool.false_ne_true, hcomment,
      if_neg Bool.false_ne_true, if_neg hend, ih fun b hb => hs b (List.mem_cons_of_mem _ hb)]
    simp

/-- The items of a line are what is between its semicolons. -/
theorem items_plain {ps : List Bytes} (hps : ∀ p ∈ ps, ∀ b ∈ p, IsPlain b) (hne : ps ≠ [])
    (start : Nat) : (items ⟨start, List.intercalate [0x3B] ps⟩).map (·.text) = ps := by
  have between : ∀ (p : Bytes) (ps : List Bytes), (∀ q ∈ p :: ps, ∀ b ∈ q, IsPlain b) →
      ∀ start, (itemsFrom false start [] (List.intercalate [0x3B] (p :: ps))).map (·.text) =
        p :: ps := by
    intro p ps
    induction ps generalizing p with
    | nil =>
      intro hp start
      have h := itemsFrom_plain (hp p List.mem_cons_self) start [] []
      rw [List.append_nil, List.append_nil] at h
      rw [List.intercalate_singleton, h]
      simp [itemsFrom]
    | cons q ps ih =>
      intro hp start
      have h := itemsFrom_plain (hp p List.mem_cons_self) start []
        (0x3B :: List.intercalate [0x3B] (q :: ps))
      have hrest := ih q (fun q hq => hp q (List.mem_cons_of_mem _ hq))
        (start + (p.reverse ++ []).length + 1)
      rw [List.intercalate_cons_cons, List.append_assoc, List.singleton_append, h, itemsFrom,
        if_neg (by decide), if_neg Bool.false_ne_true]
      rw [if_neg (by simp [beginsComment]), if_pos rfl, List.map_cons, hrest]
      simp
  obtain ⟨p, ps, rfl⟩ := List.exists_cons_of_ne_nil hne
  exact between p ps hps start

/-! ## Labels and statements -/

/-- A piece wherever it stands. -/
def Piece.unplaced : Piece → Piece
  | .label name => .label name
  | .statement s => .statement ⟨0, s.text⟩

/-- The pieces of an item wherever it stands. -/
def itemPieces (item : Bytes) : List Piece :=
  (piecesOfItem ⟨0, item⟩).map Piece.unplaced

/-- The pieces of a line wherever it stands. -/
def linePieces (line : Bytes) : List Piece :=
  (piecesOfLine ⟨0, line⟩).map Piece.unplaced

theorem unplaced_piecesOfTrimmed (item : Stretch) (start : Nat) :
    (piecesOfTrimmed ⟨start, item.text⟩).map Piece.unplaced =
      (piecesOfTrimmed item).map Piece.unplaced := by
  fun_induction piecesOfTrimmed item generalizing start with
  | case1 item name h ih =>
    rw [@piecesOfTrimmed_of_label ⟨start, item.text⟩ name h]
    exact congrArg (Piece.label name :: ·) (ih _)
  | case2 item h he => rw [@piecesOfTrimmed_of_no_label ⟨start, item.text⟩ h, if_pos he]
  | case3 item h he =>
    rw [@piecesOfTrimmed_of_no_label ⟨start, item.text⟩ h, if_neg he]
    rfl

/-- What an item is does not depend on its place. -/
theorem unplaced_piecesOfItem (item : Stretch) :
    (piecesOfItem item).map Piece.unplaced = itemPieces item.text :=
  unplaced_piecesOfTrimmed (Stretch.trim ⟨0, item.text⟩) _

theorem unplaced_piecesOfLine (line : Stretch) :
    (piecesOfLine line).map Piece.unplaced =
      ((items line).map (·.text)).flatMap itemPieces := by
  rw [piecesOfLine, List.map_flatMap, List.flatMap_map]
  exact List.flatMap_congr fun item _ => unplaced_piecesOfItem item

@[simp] theorem itemPieces_nil : itemPieces [] = [] := by
  rw [itemPieces, piecesOfItem, piecesOfTrimmed]
  rfl

theorem text_itemsFrom (quoted : Bool) (start start' : Nat) (item s : Bytes) :
    (itemsFrom quoted start item s).map (·.text) =
      (itemsFrom quoted start' item s).map (·.text) := by
  induction s generalizing quoted start start' item with
  | nil => rfl
  | cons b s ih =>
    unfold itemsFrom
    split
    · exact ih _ _ _ _
    split
    · exact ih _ _ _ _
    split
    · rfl
    split
    · exact congrArg (item.reverse :: ·) (ih _ _ _ _)
    · exact ih _ _ _ _

/-- What a line is does not depend on its place. -/
theorem unplaced_line (line : Stretch) :
    (piecesOfLine line).map Piece.unplaced = linePieces line.text := by
  rw [linePieces, unplaced_piecesOfLine, unplaced_piecesOfLine, items, items,
    text_itemsFrom false line.start 0]

@[simp] theorem linePieces_nil : linePieces [] = [] := by
  rw [linePieces, unplaced_piecesOfLine]
  exact List.append_eq_nil_iff.mpr ⟨itemPieces_nil, rfl⟩

/-- The pieces of lines, wherever they stand, are those of their texts. -/
theorem unplaced_lines (ls : List Stretch) :
    (ls.flatMap piecesOfLine).map Piece.unplaced = (ls.map (·.text)).flatMap linePieces := by
  rw [List.map_flatMap, List.flatMap_map]
  exact List.flatMap_congr fun line _ => unplaced_line line

/-- A script that is written line by line has the pieces of its lines. -/
theorem unplaced_pieces {ls : List Bytes} (hls : ∀ l ∈ ls, ∀ b ∈ l, IsInLine b) :
    (pieces (ls.flatMap (· ++ [0x0A]))).map Piece.unplaced = ls.flatMap linePieces := by
  rw [pieces, unplaced_lines, lines_written hls, List.flatMap_append, List.flatMap_singleton,
    linePieces_nil, List.append_nil]

/-- A comment has no pieces. -/
theorem linePieces_comment (text : Bytes) : linePieces (0x23 :: text) = [] := by
  have hitems : items ⟨0, 0x23 :: text⟩ = [⟨0, []⟩] := by simp [items, itemsFrom, beginsComment]
  rw [linePieces, unplaced_piecesOfLine, hitems]
  exact List.append_eq_nil_iff.mpr ⟨itemPieces_nil, rfl⟩

/-- A line of plain items says what the items say. -/
theorem linePieces_plain {ps : List Bytes} (hps : ∀ p ∈ ps, ∀ b ∈ p, IsPlain b) (hne : ps ≠ []) :
    linePieces (List.intercalate [0x3B] ps) = ps.flatMap itemPieces := by
  rw [linePieces, unplaced_piecesOfLine, items_plain hps hne]

/-- Blanks before an item do not count. -/
theorem itemPieces_blank {b : UInt8} (hb : Ascii.isBlank b = true) (item : Bytes) :
    itemPieces (b :: item) = itemPieces item := by
  have htrim : Ascii.trim (b :: item) = Ascii.trim item := by
    rw [Ascii.trim, Ascii.trimFront, List.dropWhile_cons_of_pos hb, Ascii.trim, Ascii.trimFront]
  have hplaced := unplaced_piecesOfTrimmed (Stretch.trim ⟨0, item⟩)
    (Stretch.trim ⟨0, b :: item⟩).start
  rw [itemPieces, itemPieces, piecesOfItem, piecesOfItem, ← hplaced]
  simp only [Stretch.trim, htrim]

/-- A text that has no blanks at its ends and does not begin with a label is a statement. -/
theorem itemPieces_statement {item : Bytes} (ht : Ascii.trim item = item) (hne : item ≠ [])
    (hl : labelName? item = none) : itemPieces item = [.statement ⟨0, item⟩] := by
  have htrim : Stretch.trim ⟨0, item⟩ = ⟨0 + (item.takeWhile Ascii.isBlank).length, item⟩ := by
    rw [Stretch.trim]
    simp only [ht]
  rw [itemPieces, piecesOfItem, htrim, piecesOfTrimmed_of_no_label hl, if_neg (by simpa using hne)]
  rfl

theorem trimBack_append (a b : Bytes) {x : UInt8} (hx : Ascii.isBlank x = false) :
    Ascii.trimBack (a ++ x :: b) = a ++ x :: Ascii.trimBack b := by
  have hx' : ¬Ascii.isBlank x = true := Bool.eq_false_iff.mp hx
  by_cases hb : b.reverse.dropWhile Ascii.isBlank = []
  · simp [Ascii.trimBack, List.dropWhile_append, hb, List.dropWhile_cons_of_neg hx']
  · simp [Ascii.trimBack, List.dropWhile_append, hb]

theorem trimFront_append {a : Bytes} (ha : ∀ b ∈ a, Ascii.isBlank b = true) (b : Bytes)
    {x : UInt8} (hx : Ascii.isBlank x = false) : Ascii.trimFront (a ++ x :: b) = x :: b := by
  rw [Ascii.trimFront, List.dropWhile_append_of_pos ha,
    List.dropWhile_cons_of_neg (Bool.eq_false_iff.mp hx)]

theorem trim_trimBack (s : Bytes) : Ascii.trim (Ascii.trimBack s) = Ascii.trim s := by
  have hs := List.takeWhile_append_dropWhile (p := Ascii.isBlank) (l := s)
  have hblank : ∀ b ∈ s.takeWhile Ascii.isBlank, Ascii.isBlank b = true :=
    fun b hb => List.mem_takeWhile_imp hb
  rcases hd : s.dropWhile Ascii.isBlank with _ | ⟨x, b⟩
  · -- all of it is blank
    have hall : s.reverse.dropWhile Ascii.isBlank = [] :=
      List.dropWhile_eq_nil_iff.mpr fun y hy =>
        List.dropWhile_eq_nil_iff.mp hd y (List.mem_reverse.mp hy)
    rw [Ascii.trim, Ascii.trim, Ascii.trimBack.eq_def s, hall, Ascii.trimFront.eq_def s, hd]
    rfl
  · have hx : Ascii.isBlank x = false := by
      have hne : s.dropWhile Ascii.isBlank ≠ [] := hd ▸ List.cons_ne_nil _ _
      simpa [hd] using List.head_dropWhile_not Ascii.isBlank hne
    have hback := trimBack_append [] (Ascii.trimBack b) hx
    have hback' := trimBack_append [] b hx
    rw [List.nil_append, List.nil_append] at hback hback'
    have htwice : Ascii.trimBack (Ascii.trimBack b) = Ascii.trimBack b := by
      rw [Ascii.trimBack, Ascii.trimBack, List.reverse_reverse, List.dropWhile_idempotent]
    rw [hd] at hs
    rw [← hs, trimBack_append _ _ hx, Ascii.trim, trimFront_append hblank _ hx, hback, htwice,
      Ascii.trim, trimFront_append hblank _ hx, hback']

theorem labelName?_append {name : Bytes} (hn : ∀ x ∈ name, Ascii.isNameByte x = true) {b : UInt8}
    (hb : Ascii.isNameByte b = false) (rest : Bytes) : labelName? (name ++ b :: rest) =
      name.head?.bind fun first =>
        if Ascii.isNameStart first && b == 0x3A then some name else none := by
  have htake : (name ++ b :: rest).takeWhile Ascii.isNameByte = name := by
    rw [List.takeWhile_append_of_pos hn, List.takeWhile_cons_of_neg (by simp [hb]), List.append_nil]
  simp only [labelName?, htake, List.drop_left, List.head?_cons]
  cases name.head? <;> rfl

theorem isBlank_of_isNameStart {b : UInt8} (h : Ascii.isNameStart b = true) :
    Ascii.isBlank b = false := by
  cases hb : Ascii.isBlank b with
  | false => rfl
  | true =>
    simp only [Ascii.isBlank, Bool.or_eq_true, beq_iff_eq] at hb
    rcases hb with (((rfl | rfl) | rfl) | rfl) | rfl <;> cases h

/-- A name and a colon are a label. -/
theorem itemPieces_label {first : UInt8} {name : Bytes} (hs : Ascii.isNameStart first = true)
    (hn : ∀ b ∈ first :: name, Ascii.isNameByte b = true) (item : Bytes) :
    itemPieces (first :: name ++ 0x3A :: item) = .label (first :: name) :: itemPieces item := by
  have hcolon : Ascii.isBlank 0x3A = false := rfl
  have htrim : Stretch.trim ⟨0, first :: name ++ 0x3A :: item⟩ =
      ⟨0, first :: name ++ 0x3A :: Ascii.trimBack item⟩ := by
    have hblank := isBlank_of_isNameStart hs
    have hfront := trimFront_append (a := []) nofun (name ++ 0x3A :: item) hblank
    have hback := trimBack_append (first :: name) item hcolon
    have hnone : (first :: name ++ 0x3A :: item).takeWhile Ascii.isBlank = [] :=
      List.takeWhile_cons_of_neg (Bool.eq_false_iff.mp hblank)
    rw [List.nil_append, ← List.cons_append] at hfront
    simp only [Stretch.trim, Ascii.trim, hfront, hback, hnone, List.length_nil]
  have hname : labelName? (first :: name ++ 0x3A :: Ascii.trimBack item) =
      some (first :: name) := by
    rw [labelName?_append hn rfl, List.head?_cons, Option.bind_some, hs]
    rfl
  have hrest := unplaced_piecesOfTrimmed (Stretch.trim ⟨0, item⟩)
    ((Stretch.drop ((first :: name).length + 1)
      ⟨0, first :: name ++ 0x3A :: Ascii.trimBack item⟩).trim).start
  have hdrop : (first :: name ++ 0x3A :: Ascii.trimBack item).drop ((first :: name).length + 1) =
      Ascii.trimBack item := by
    rw [List.drop_length_add_append]
    rfl
  rw [itemPieces, piecesOfItem, htrim, piecesOfTrimmed_of_label hname, itemPieces, piecesOfItem,
    ← hrest, List.map_cons]
  simp only [Stretch.trim, Stretch.drop, hdrop, trim_trimBack]
  rfl

/-! ## Statements of words -/

/-- Whether a byte is in a word that has no meaning to a line : it is in a name, or is the sign
of a comparison. -/
def isTame (b : UInt8) : Bool :=
  Ascii.isNameByte b || b == 0x3E

theorem ne_of_isTame {b c : UInt8} (hb : isTame b = true) (hc : isTame c = false) : b ≠ c := by
  rintro rfl
  exact Bool.eq_false_iff.mp hc hb

theorem isBlank_of_isTame {b : UInt8} (hb : isTame b = true) : Ascii.isBlank b = false := by
  simp only [Ascii.isBlank, Bool.or_eq_false_iff, beq_eq_false_iff_ne]
  exact ⟨⟨⟨⟨ne_of_isTame hb rfl, ne_of_isTame hb rfl⟩, ne_of_isTame hb rfl⟩,
    ne_of_isTame hb rfl⟩, ne_of_isTame hb rfl⟩

theorem isPlain_of_isTame {b : UInt8} (hb : isTame b = true) : IsPlain b :=
  ⟨ne_of_isTame hb rfl, ne_of_isTame hb rfl, ne_of_isTame hb rfl, ne_of_isTame hb rfl⟩

theorem isInLine_of_isTame {b : UInt8} (hb : isTame b = true) : IsInLine b :=
  ⟨ne_of_isTame hb rfl, ne_of_isTame hb rfl⟩

/-- A word that is not empty, of bytes that have no meaning to a line. -/
structure IsTameWord (w : Bytes) : Prop where
  /-- It is not empty. -/
  ne_nil : w ≠ []
  /-- Its bytes. -/
  tame : ∀ b ∈ w, isTame b = true

theorem IsTameWord.of_all {w : Bytes} (h : (!w.isEmpty && w.all isTame) = true) :
    IsTameWord w := by
  simp only [Bool.and_eq_true, Bool.not_eq_true', List.isEmpty_eq_false_iff,
    List.all_eq_true] at h
  exact ⟨h.1, h.2⟩

theorem mem_intercalate {sep : Bytes} {ls : List Bytes} {b : UInt8}
    (h : b ∈ List.intercalate sep ls) : b ∈ sep ∨ ∃ l ∈ ls, b ∈ l := by
  induction ls with
  | nil => cases h
  | cons l ls ih =>
    cases ls with
    | nil => exact .inr ⟨l, List.mem_cons_self, by rwa [List.intercalate_singleton] at h⟩
    | cons l' ls =>
      rw [List.intercalate_cons_cons, List.mem_append, List.mem_append] at h
      rcases h with (h | h) | h
      · exact .inr ⟨l, List.mem_cons_self, h⟩
      · exact .inl h
      · exact (ih h).imp_right fun ⟨m, hm, hb⟩ => ⟨m, List.mem_cons_of_mem _ hm, hb⟩

/-- A statement that is written as a keyword and operands, with a blank before each. -/
structure IsWritten (s : Bytes) (w : Bytes) (ws : List Bytes) : Prop where
  /-- The text. -/
  eq_intercalate : s = List.intercalate [0x20] (w :: ws)
  /-- There are operands. -/
  operands : ws ≠ []
  /-- The keyword is a name. -/
  keyword : ∀ b ∈ w, Ascii.isNameByte b = true
  /-- The words. -/
  words : ∀ v ∈ w :: ws, IsTameWord v

variable {s w : Bytes} {ws : List Bytes}

/-- The bytes of a written statement are tame or blanks. -/
theorem IsWritten.isTame_or_blank (h : IsWritten s w ws) {b : UInt8} (hb : b ∈ s) :
    isTame b = true ∨ b = 0x20 := by
  rw [h.eq_intercalate] at hb
  rcases mem_intercalate hb with hb | ⟨v, hv, hb⟩
  · exact .inr (List.mem_singleton.mp hb)
  · exact .inl ((h.words v hv).tame b hb)

theorem IsWritten.plain (h : IsWritten s w ws) : ∀ b ∈ s, IsPlain b := by
  intro b hb
  rcases h.isTame_or_blank hb with hb | rfl
  · exact isPlain_of_isTame hb
  · decide

theorem IsWritten.inLine (h : IsWritten s w ws) : ∀ b ∈ s, IsInLine b := by
  intro b hb
  rcases h.isTame_or_blank hb with hb | rfl
  · exact isInLine_of_isTame hb
  · decide

/-- A written statement begins with its keyword and a blank. -/
theorem IsWritten.exists_eq (h : IsWritten s w ws) : ∃ rest, s = w ++ 0x20 :: rest := by
  obtain ⟨v, vs, rfl⟩ := List.exists_cons_of_ne_nil h.operands
  refine ⟨List.intercalate [0x20] (v :: vs), ?_⟩
  rw [h.eq_intercalate, List.intercalate_cons_cons, List.append_assoc, List.singleton_append]

/-- Words that are written one after the other end as the last one. -/
theorem isTame_getLast {ws : List Bytes} (hws : ∀ v ∈ ws, IsTameWord v) {b : UInt8}
    (hb : b ∈ (List.intercalate [0x20] ws).getLast?) : isTame b = true := by
  induction ws with
  | nil => cases hb
  | cons v ws ih =>
    cases ws with
    | nil =>
      rw [List.intercalate_singleton] at hb
      exact (hws v List.mem_cons_self).tame b (List.mem_of_getLast? hb)
    | cons v' ws =>
      have hne : List.intercalate [0x20] (v' :: ws) ≠ [] := fun hn => by
        have := (hws v' (by simp)).ne_nil
        cases ws <;> simp_all [List.intercalate_cons_cons]
      rw [List.intercalate_cons_cons, List.getLast?_append_of_ne_nil _ hne] at hb
      exact ih (fun v hv => hws v (List.mem_cons_of_mem _ hv)) hb

/-- A written statement has no blanks at its ends. -/
theorem IsWritten.trim (h : IsWritten s w ws) : Ascii.trim s = s := by
  refine Numeral.trim_of_ends (fun b hb => ?_) fun b hb => ?_
  · obtain ⟨rest, hs⟩ := h.exists_eq
    obtain ⟨first, name, rfl⟩ := List.exists_cons_of_ne_nil (h.words w List.mem_cons_self).ne_nil
    rw [hs] at hb
    obtain rfl : first = b := by simpa using hb
    exact isBlank_of_isTame ((h.words _ List.mem_cons_self).tame _ List.mem_cons_self)
  · rw [h.eq_intercalate] at hb
    exact isBlank_of_isTame (isTame_getLast h.words hb)

/-- A written statement is one. -/
theorem IsWritten.itemPieces (h : IsWritten s w ws) : itemPieces s = [.statement ⟨0, s⟩] := by
  obtain ⟨rest, hs⟩ := h.exists_eq
  refine itemPieces_statement h.trim ?_ ?_
  · rw [hs]
    simp
  · rw [hs, labelName?_append h.keyword rfl]
    cases w.head? with
    | none => rfl
    | some first => exact if_neg (by simp)

theorem IsWritten.linePieces (h : IsWritten s w ws) : linePieces s = [.statement ⟨0, s⟩] := by
  have hline := @linePieces_plain [s] (by simpa using h.plain) (List.cons_ne_nil _ _)
  rw [List.intercalate_singleton] at hline
  rw [hline, List.flatMap_singleton, h.itemPieces]

/-- The pieces that are statements with these texts. -/
def statements (ls : List Bytes) : List Piece :=
  ls.map fun l => .statement ⟨0, l⟩

/-- Whether a line is one written statement. -/
def IsStatement (l : Bytes) : Prop :=
  ∃ w ws, IsWritten l w ws

variable {ls : List Bytes}

theorem flatMap_itemPieces (h : ∀ l ∈ ls, IsStatement l) :
    ls.flatMap itemPieces = statements ls := by
  induction ls with
  | nil => rfl
  | cons l ls ih =>
    obtain ⟨⟨w, ws, written⟩, hls⟩ := List.forall_mem_cons.mp h
    rw [List.flatMap_cons, written.itemPieces, ih hls]
    rfl

theorem flatMap_linePieces (h : ∀ l ∈ ls, IsStatement l) :
    ls.flatMap linePieces = statements ls := by
  have one : ∀ l ∈ ls, linePieces l = itemPieces l := fun l hl => by
    obtain ⟨w, ws, written⟩ := h l hl
    rw [written.linePieces, written.itemPieces]
  rw [List.flatMap_congr one, flatMap_itemPieces h]

end Coprocessor.Script
