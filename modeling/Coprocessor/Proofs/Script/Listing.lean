import Coprocessor.Proofs.Script.Text
import Coprocessor.Script.Instruction

/-!
# The listing of a program

The statements of a program are those of its pieces in order, and a label is bound to the
number of statements before the first label with its name (`texts_of_parse`,
`resolve_of_parse`). So what the statements do is read off the pieces
(`instructions_of_parse`), and a statement that is written word by word is read word by word
(`Instruction.read_words`).
-/

namespace Coprocessor.Script

/-! ## Statements and labels -/

/-- The texts of the statements among pieces. -/
def texts : List Piece → List Bytes
  | [] => []
  | .label _ :: ps => texts ps
  | .statement s :: ps => s.text :: texts ps

/-- The number of statements before the first label with a name, if there is one. -/
def locate (name : Bytes) : List Piece → Option Nat
  | [] => none
  | .label l :: ps => if Ascii.sameWord l name then some 0 else locate name ps
  | .statement _ :: ps => (locate name ps).map (· + 1)

variable {ps qs : List Piece} {name : Bytes}

theorem texts_append (ps qs : List Piece) : texts (ps ++ qs) = texts ps ++ texts qs := by
  induction ps with
  | nil => rfl
  | cons p ps ih => cases p <;> simp [texts, ih]

@[simp] theorem texts_statements (ls : List Bytes) : texts (statements ls) = ls := by
  induction ls with
  | nil => rfl
  | cons l ls ih => exact congrArg (l :: ·) ih

theorem label_not_mem_statements (l : Bytes) (ls : List Bytes) : .label l ∉ statements ls := by
  simp [statements]

theorem texts_unplaced (ps : List Piece) : texts (ps.map Piece.unplaced) = texts ps := by
  induction ps with
  | nil => rfl
  | cons p ps ih => cases p <;> simp [texts, Piece.unplaced, ih]

theorem locate_unplaced (name : Bytes) (ps : List Piece) :
    locate name (ps.map Piece.unplaced) = locate name ps := by
  induction ps with
  | nil => rfl
  | cons p ps ih => cases p <;> simp [locate, Piece.unplaced, ih]

/-- A label is found among the pieces before if it is there, and after them if it is not. -/
theorem locate_append (name : Bytes) (ps qs : List Piece) : locate name (ps ++ qs) =
    (locate name ps).or ((locate name qs).map ((texts ps).length + ·)) := by
  induction ps with
  | nil => simp [texts, locate]
  | cons p ps ih =>
    cases p with
    | label l =>
      rw [List.cons_append, locate, locate, ih]
      split <;> rfl
    | statement s =>
      rw [List.cons_append, locate, locate, ih]
      cases locate name ps with
      | some n => rfl
      | none => simp [texts, Function.comp_def, Nat.add_comm, Nat.add_left_comm]

theorem locate_eq_none (h : ∀ l, .label l ∈ ps → Ascii.sameWord l name = false) :
    locate name ps = none := by
  induction ps with
  | nil => rfl
  | cons p ps ih =>
    have ih := ih fun l hl => h l (List.mem_cons_of_mem _ hl)
    cases p with
    | label l => rw [locate, h l List.mem_cons_self, if_neg Bool.false_ne_true, ih]
    | statement s => rw [locate, ih, Option.map_none]

/-- A label that is not among the pieces before is found after them. -/
theorem locate_append_of_new (h : ∀ l, .label l ∈ ps → Ascii.sameWord l name = false) :
    locate name (ps ++ qs) = (locate name qs).map ((texts ps).length + ·) := by
  rw [locate_append, locate_eq_none h, Option.none_or]

/-- Names that are the same up to case are bound to the same statement. -/
theorem resolve_congr (p : Program) {name name' : Bytes} (h : Ascii.sameWord name name' = true) :
    p.resolve name = p.resolve name' := by
  have hfold : name.map Ascii.fold = name'.map Ascii.fold := beq_iff_eq.mp h
  simp only [Program.resolve, Ascii.sameWord, hfold]

theorem resolve_push (p : Program) (l : Label) (name : Bytes) :
    Program.resolve { p with labels := p.labels.push l } name =
      (p.resolve name).or (if Ascii.sameWord l.name name then some l.target else none) := by
  simp only [Program.resolve, Array.find?_push]
  cases p.labels.find? fun l => Ascii.sameWord l.name name with
  | some l' => rfl
  | none => cases h : Ascii.sameWord l.name name <;> simp

/-- What a program becomes of pieces. -/
theorem add_pieces {limits : Limits} {p p' : Program}
    (h : ps.foldlM (Program.add limits) p = .ok p') :
    p'.statements.toList.map (·.text) = p.statements.toList.map (·.text) ++ texts ps ∧
      ∀ name, p'.resolve name = (p.resolve name).or
        ((locate name ps).map (p.statements.size + ·)) := by
  induction ps generalizing p with
  | nil =>
    cases h
    simp [texts, locate]
  | cons q ps ih =>
    rw [List.foldlM_cons] at h
    cases q with
    | label l =>
      by_cases hl : (p.resolve l).isSome = true
      · rw [Program.add, if_pos hl] at h
        obtain ⟨hstatements, hresolve⟩ := ih h
        refine ⟨hstatements, fun name => ?_⟩
        rw [hresolve, locate]
        split
        case isTrue hs =>
          rw [resolve_congr p hs] at hl
          obtain ⟨target, ht⟩ := Option.isSome_iff_exists.mp hl
          simp [ht]
        case isFalse => rfl
      · rw [Program.add, if_neg hl] at h
        split at h
        case isTrue => cases h
        case isFalse =>
        obtain ⟨hstatements, hresolve⟩ := ih h
        refine ⟨hstatements, fun name => ?_⟩
        rw [hresolve, resolve_push, locate]
        cases hs : Ascii.sameWord l name <;> cases p.resolve name <;> simp
    | statement s =>
      rw [Program.add] at h
      split at h
      case isTrue => cases h
      case isFalse =>
      obtain ⟨hstatements, hresolve⟩ := ih h
      refine ⟨?_, fun name => ?_⟩
      · rw [hstatements]
        simp [texts]
      · rw [hresolve, locate]
        simp only [Array.size_push, Option.map_map, Function.comp_def, Nat.add_comm,
          Nat.add_left_comm]
        rfl

variable {limits : Limits} {source : Bytes} {p : Program}

theorem texts_of_parse (h : Program.parse limits source = .ok p) :
    p.statements.toList.map (·.text) = texts (pieces source) := by
  simpa using (add_pieces h).1

theorem resolve_of_parse (h : Program.parse limits source = .ok p) (name : Bytes) :
    p.resolve name = locate name (pieces source) := by
  simpa [Program.resolve] using (add_pieces h).2 name

/-- What the statements of a program do is read off its pieces. -/
theorem instructions_of_parse (h : Program.parse limits source = .ok p) :
    p.instructions.toList =
      (texts (pieces source)).map (Instruction.read (locate · (pieces source))) := by
  have hresolve : p.resolve = (locate · (pieces source)) := funext (resolve_of_parse h)
  rw [Program.instructions, Array.toList_map, hresolve, ← texts_of_parse h, List.map_map]
  rfl

/-- A text whose program passes a test stands for such a program. -/
theorem exists_program_of_any {test : Program → Bool}
    (h : (Program.parse limits source).toOption.any test = true) :
    ∃ p, Program.parse limits source = .ok p ∧ test p = true := by
  cases hp : Program.parse limits source with
  | error e =>
    rw [hp] at h
    cases h
  | ok p =>
    rw [hp] at h
    exact ⟨p, rfl, h⟩

/-! ## Words of a statement -/

/-- Whether a byte stands in a word. -/
def IsInWord (b : UInt8) : Prop :=
  Instruction.endsOperand b = false

/-- A word of a statement. -/
structure IsWord (w : Bytes) : Prop where
  /-- It is not empty. -/
  ne_nil : w ≠ []
  /-- It ends nowhere. -/
  inWord : ∀ b ∈ w, IsInWord b

theorem splitOnP_words {ws : List Bytes} (hws : ∀ w ∈ ws, IsWord w) (hne : ws ≠ []) :
    (List.intercalate [0x20] ws).splitOnP Instruction.endsOperand = ws := by
  have between : ∀ (w : Bytes) (ws : List Bytes), (∀ v ∈ w :: ws, IsWord v) →
      (List.intercalate [0x20] (w :: ws)).splitOnP Instruction.endsOperand = w :: ws := by
    intro w ws
    induction ws generalizing w with
    | nil =>
      intro hw
      rw [List.intercalate_singleton]
      exact List.splitOnP_eq_singleton (hw w List.mem_cons_self).inWord
    | cons v ws ih =>
      intro hw
      rw [List.intercalate_cons_cons, List.append_assoc, List.singleton_append,
        List.splitOnP_append_cons_of_forall_mem (hw w List.mem_cons_self).inWord 0x20 rfl,
        ih v fun u hu => hw u (List.mem_cons_of_mem _ hu)]
  obtain ⟨w, ws, rfl⟩ := List.exists_cons_of_ne_nil hne
  exact between w ws hws

/-- The operands of a statement are the words after the first. -/
theorem tokens_words {ws : List Bytes} (hws : ∀ w ∈ ws, IsWord w) :
    Ascii.tokens Instruction.endsOperand (0x20 :: List.intercalate [0x20] ws) = ws := by
  have hall : ws.filter (fun w => !w.isEmpty) = ws :=
    List.filter_eq_self.mpr fun w hw => by simp [(hws w hw).ne_nil]
  have hcut := @List.splitOnP_append_cons_of_forall_mem _ Instruction.endsOperand []
    nofun 0x20 rfl (List.intercalate [0x20] ws)
  rw [List.nil_append] at hcut
  rw [Ascii.tokens, hcut]
  by_cases hne : ws = []
  · subst hne
    rfl
  · rw [splitOnP_words hws hne]
    exact hall

namespace Instruction

variable {resolve : Bytes → Option Nat} {w : Bytes} {ws : List Bytes}

/-- A statement that is written as a keyword and operands is read as such. -/
theorem read_words {k : Keyword} (hk : Keyword.ofWord? w = some k) (hw : IsWord w)
    (hws : ∀ v ∈ ws, IsWord v) (hne : ws ≠ []) :
    read resolve (List.intercalate [0x20] (w :: ws)) =
      (ofKeyword? resolve (0x20 :: List.intercalate [0x20] ws) k ws).getD .skip := by
  obtain ⟨v, vs, rfl⟩ := List.exists_cons_of_ne_nil hne
  have hin : ∀ b ∈ w, (!endsOperand b) = true := fun b hb => by
    rw [hw.inWord b hb]
    rfl
  have hstatement : List.intercalate [0x20] (w :: v :: vs) =
      w ++ 0x20 :: List.intercalate [0x20] (v :: vs) := by
    rw [List.intercalate_cons_cons, List.append_assoc, List.singleton_append]
  have hfirst : (List.intercalate [0x20] (w :: v :: vs)).takeWhile (fun b => !endsOperand b) =
      w := by
    rw [hstatement, List.takeWhile_append_of_pos hin, List.takeWhile_cons_of_neg (by decide),
      List.append_nil]
  have hrest : (List.intercalate [0x20] (w :: v :: vs)).dropWhile (fun b => !endsOperand b) =
      0x20 :: List.intercalate [0x20] (v :: vs) := by
    rw [hstatement, List.dropWhile_append_of_pos hin, List.dropWhile_cons_of_neg (by decide)]
  rw [read]
  simp only [hfirst, hrest, hk, tokens_words hws]
  rfl

end Instruction

theorem IsTameWord.isWord {w : Bytes} (h : IsTameWord w) : IsWord w :=
  ⟨h.ne_nil, fun b hb => by
    rw [IsInWord, Instruction.endsOperand, isBlank_of_isTame (h.tame b hb), Bool.false_or,
      beq_eq_false_iff_ne]
    exact ne_of_isTame (h.tame b hb) rfl⟩

/-- A written statement is read word by word. -/
theorem IsWritten.read {s w : Bytes} {ws : List Bytes} (h : IsWritten s w ws) {k : Keyword}
    (hk : Keyword.ofWord? w = some k) (resolve : Bytes → Option Nat) :
    Instruction.read resolve s =
      (Instruction.ofKeyword? resolve (0x20 :: List.intercalate [0x20] ws) k ws).getD .skip := by
  rw [h.eq_intercalate]
  exact Instruction.read_words hk (h.words w List.mem_cons_self).isWord
    (fun v hv => (h.words v (List.mem_cons_of_mem _ hv)).isWord) h.operands

/-! ## Operands -/

theorem isTameWord_digits (n : Nat) : IsTameWord (Numeral.digits 10 n) := by
  refine ⟨fun h => ?_, fun b hb => ?_⟩
  · rw [Numeral.digits_eq] at h
    split at h <;> simp at h
  · simp [isTame, Ascii.isNameByte, Numeral.isDigit_of_mem_digits hb]

theorem fold_of_mem_digits {n : Nat} {b : UInt8} (h : b ∈ Numeral.digits 10 n) :
    Ascii.fold b = b := by
  have all : ∀ d < 10, Ascii.fold (Numeral.digit d) = Numeral.digit d := by decide
  obtain ⟨d, hd, rfl⟩ := Numeral.exists_digit_of_mem h
  exact all d hd

theorem map_fold_digits (n : Nat) :
    (Numeral.digits 10 n).map Ascii.fold = Numeral.digits 10 n := by
  rw [List.map_congr_left fun b hb => fold_of_mem_digits hb, List.map_id']

/-- A word with a letter is no numeral. -/
theorem isWord_digits {spelling : String}
    (hs : ((Bytes.ofText spelling).map Ascii.fold).all Ascii.isDigit = false) (n : Nat) :
    Ascii.isWord spelling (Numeral.digits 10 n) = false := by
  refine Bool.eq_false_iff.mpr fun h => Bool.eq_false_iff.mp hs ?_
  rw [beq_iff_eq.mp h, map_fold_digits, List.all_eq_true]
  exact fun b hb => Numeral.isDigit_of_mem_digits hb

theorem register?_digits (n : Nat) : register? (Numeral.digits 10 n) = none := by
  rcases hd : Numeral.digits 10 n with _ | ⟨b, rest⟩
  · rfl
  · have hb : b ∈ Numeral.digits 10 n := hd ▸ List.mem_cons_self
    have hne : Ascii.fold b ≠ 0x72 := fun h => by
      have hdigit := Numeral.isDigit_of_mem_digits hb
      rw [← fold_of_mem_digits hb, h] at hdigit
      cases hdigit
    simp [register?, hne]

/-- A numeral is a constant. -/
theorem read_digits (n : Nat) : Operand.read (Numeral.digits 10 n) = .constant (.ofNat n) := by
  have hread : Numeral.read (Numeral.digits 10 n) = .ofNat n :=
    (Numeral.read_decimal (.ofNat n)).trans (Int32.ofInt_eq_ofNat ..)
  rw [Operand.read, register?_digits]
  simp only [@isWord_digits "HIGH" (by decide), @isWord_digits "TRUE" (by decide),
    @isWord_digits "LOW" (by decide), @isWord_digits "FALSE" (by decide), hread]
  rfl

end Coprocessor.Script
