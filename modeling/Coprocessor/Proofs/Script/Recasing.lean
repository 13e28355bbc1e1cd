import Coprocessor.Proofs.Script.Playing
import Coprocessor.Proofs.Script.Quoting
import Coprocessor.Proofs.Script.Text
import Coprocessor.Pins.Bank

/-!
# Scripts in either case

A byte of a script stands inside or outside quotes, in a comment, or behind the end
(`Region`). The lines of a script are looked at one by one : a quote that is not closed ends
with its line, and a comment holds no quotes.

Two scripts that differ only in the case of letters outside quotes (`Recased`) become the same
one with small letters there (`lowerScript`), and a script stands for the same program in small
letters, with the same instructions (`Program.parse_lowerScript`, `Program.instructions_lower`).
So such scripts fail with the same error, or run in the same way (`Recased.attempt_eq`).
-/

namespace Coprocessor.Script

open Ascii

/-! ## Where a byte stands -/

/-- Where in a script a byte stands. -/
inductive Region where
  /-- Outside quotes and comments. -/
  | plain
  /-- There, right behind a slash. -/
  | slash
  /-- Inside quotes. -/
  | quoted
  /-- In a comment. -/
  | comment
  /-- Behind the end of the script. -/
  | ended
  deriving DecidableEq, Repr

/-- Where the byte behind a byte stands. -/
def Region.next (r : Region) (b : UInt8) : Region :=
  if r = .ended ∨ b = 0 then .ended
  else if b = 0x0A then .plain
  else if r = .quoted then if b = 0x22 then .plain else .quoted
  else if r = .comment ∨ b = 0x23 ∨ (r = .slash ∧ b = 0x2F) then .comment
  else if b = 0x22 then .quoted
  else if b = 0x2F then .slash
  else .plain

/-- Two texts that go on from a place in a script differ only in the case of letters outside
quotes. -/
inductive Recased : Region → Bytes → Bytes → Prop
  /-- They are at their ends. -/
  | nil (r : Region) : Recased r [] []
  /-- A byte is the same. -/
  | same {r : Region} {b : UInt8} {s t : Bytes} (h : Recased (r.next b) s t) :
      Recased r (b :: s) (b :: t)
  /-- A byte outside quotes is the same up to case. -/
  | fold {r : Region} {b c : UInt8} {s t : Bytes} (hr : r ≠ .quoted) (hc : fold b = fold c)
      (h : Recased (r.next b) s t) : Recased r (b :: s) (c :: t)

/-- A text with small letters for capital ones outside quotes. -/
def lowerScript : Region → Bytes → Bytes
  | _, [] => []
  | r, b :: s => lowerByte (r == .quoted) b :: lowerScript (r.next b) s

theorem Region.next_fold (r : Region) (b : UInt8) : r.next (fold b) = r.next b := by
  have hsame : ∀ c : UInt8, isLetter c = false → (fold b = c ↔ b = c) := fun c hc =>
    fold_eq_iff hc
  simp only [next, hsame 0 rfl, hsame 0x0A rfl, hsame 0x22 rfl, hsame 0x23 rfl, hsame 0x2F rfl]

variable {r : Region} {s t : Bytes}

/-- Texts that differ only in the case of letters outside quotes are the same in small letters
there. -/
theorem Recased.lowerScript_eq (h : Recased r s t) : lowerScript r s = lowerScript r t := by
  induction h with
  | nil r => rfl
  | same h ih => rw [lowerScript, lowerScript, ih]
  | @fold r b c s t hr hc h ih =>
    have hplain : (r == .quoted) = false := beq_eq_false_iff_ne.mpr hr
    have hnext : r.next c = r.next b := by rw [← r.next_fold c, ← hc, r.next_fold]
    rw [lowerScript, lowerScript, hplain, hnext, ih]
    exact congrArg (· :: _) hc

theorem recased_of_lowerScript_eq (h : lowerScript r s = lowerScript r t) : Recased r s t := by
  induction s generalizing r t with
  | nil =>
    cases t with
    | nil => exact .nil r
    | cons c t => cases h
  | cons b s ih =>
    cases t with
    | nil => cases h
    | cons c t =>
      obtain ⟨hbyte, hrest⟩ := List.cons.inj h
      by_cases hr : r = .quoted
      · subst hr
        obtain rfl : b = c := hbyte
        exact .same (ih hrest)
      · have hplain : (r == .quoted) = false := beq_eq_false_iff_ne.mpr hr
        rw [hplain] at hbyte
        have hnext : r.next c = r.next b := by
          rw [← r.next_fold c, ← show fold b = fold c from hbyte, r.next_fold]
        rw [hnext] at hrest
        exact .fold hr hbyte (ih hrest)

/-! ## Lines -/

/-- Where the byte behind some bytes stands. -/
def Region.behind (r : Region) (s : Bytes) : Region :=
  s.foldl next r

theorem Region.behind_concat (r : Region) (s : Bytes) (b : UInt8) :
    r.behind (s ++ [b]) = (r.behind s).next b :=
  List.foldl_append

/-- A script goes on behind every byte but the one that ends it. -/
theorem Region.next_ne_ended {b : UInt8} (he : r ≠ .ended) (hb : b ≠ 0) : r.next b ≠ .ended := by
  rw [next, if_neg (not_or.mpr ⟨he, hb⟩)]
  repeat' split
  all_goals decide

theorem lowerScript_append (r : Region) (s t : Bytes) :
    lowerScript r (s ++ t) = lowerScript r s ++ lowerScript (r.behind s) t := by
  induction s generalizing r with
  | nil => rfl
  | cons b s ih =>
    rw [List.cons_append, lowerScript, lowerScript, List.cons_append, ih]
    rfl

@[simp] theorem length_lowerScript (r : Region) (s : Bytes) :
    (lowerScript r s).length = s.length := by
  induction s generalizing r with
  | nil => rfl
  | cons b s ih => rw [lowerScript, List.length_cons, List.length_cons, ih]

theorem takeWhile_lowerScript (r : Region) (s : Bytes) :
    (lowerScript r s).takeWhile (· != 0) = lowerScript r (s.takeWhile (· != 0)) := by
  induction s generalizing r with
  | nil => rfl
  | cons b s ih =>
    have hend : (lowerByte (r == .quoted) b != 0) = (b != 0) :=
      congrArg not (lowerByte_of_fold (f := (· == 0)) (fold_beq rfl) _ b)
    rw [lowerScript, List.takeWhile_cons, List.takeWhile_cons, hend, ih]
    cases b != 0 <;> rfl

/-- A line of a script with small letters outside quotes. -/
def Stretch.lowerLine (line : Stretch) : Stretch :=
  ⟨line.start, lowerScript .plain line.text⟩

/-- A script in small letters is cut into its lines in small letters. -/
theorem linesFrom_lowerScript (start : Nat) (line s : Bytes) (hs : ∀ b ∈ s, b ≠ 0)
    (hr : r = Region.plain.behind line) (he : r ≠ .ended) :
    linesFrom start (lowerScript .plain line).reverse (lowerScript r s) =
      (linesFrom start line.reverse s).map Stretch.lowerLine := by
  -- The line so far is put together at its end, so it is kept in order here.
  induction s generalizing start line r with
  | nil =>
    rw [lowerScript, linesFrom, linesFrom, List.reverse_reverse, List.reverse_reverse]
    rfl
  | cons b s ih =>
    obtain ⟨hb, hs⟩ := List.forall_mem_cons.mp hs
    have hcond : lowerByte (r == .quoted) b = 0x0A ↔ b = 0x0A := lowerByte_eq_iff rfl
    rw [lowerScript, linesFrom, linesFrom]
    by_cases hend : b = 0x0A
    · have hnext : r.next b = .plain := by
        rw [Region.next, if_neg (not_or.mpr ⟨he, hb⟩), if_pos hend]
      rw [if_pos (hcond.mpr hend), if_pos hend, List.map_cons, List.reverse_reverse,
        List.reverse_reverse, List.length_reverse, List.length_reverse, length_lowerScript, hnext]
      exact congrArg (_ :: ·) (ih _ [] hs rfl (by decide))
    · have hline : lowerByte (r == .quoted) b :: (lowerScript .plain line).reverse =
          (lowerScript .plain (line ++ [b])).reverse := by
        rw [lowerScript_append, List.reverse_append, ← hr]
        rfl
      rw [if_neg (mt hcond.mp hend), if_neg hend, hline, ← List.reverse_concat]
      have hbehind : r.next b = Region.plain.behind (line ++ [b]) := by
        rw [hr, Region.behind_concat]
      exact ih start (line ++ [b]) hs hbehind (Region.next_ne_ended he hb)

theorem lines_lowerScript (s : Bytes) :
    lines (lowerScript .plain s) = (lines s).map Stretch.lowerLine := by
  rw [lines, takeWhile_lowerScript]
  exact linesFrom_lowerScript 0 [] _ (fun b hb => by simpa using List.mem_takeWhile_imp hb) rfl
    (by decide)

/-! ## Items -/

/-- A comment begins at the same place in small letters. -/
theorem beginsComment_lower (quoted : Bool) (r : Region) (b : UInt8) (s : Bytes) :
    beginsComment (lowerByte quoted b) (lowerScript r s) = beginsComment b s := by
  have hhead : ((lowerScript r s).head? == some 0x2F) = (s.head? == some 0x2F) := by
    cases s with
    | nil => rfl
    | cons c s => exact lowerByte_of_fold (f := (· == 0x2F)) (fold_beq rfl) _ c
  rw [beginsComment, beginsComment, hhead,
    lowerByte_of_fold (f := (· == 0x23)) (fold_beq rfl) quoted b,
    lowerByte_of_fold (f := (· == 0x2F)) (fold_beq rfl) quoted b]

/-- A place in a line where no comment has begun, `quoted` telling whether a quote is open. -/
structure Region.Holds (r : Region) (quoted : Bool) (s : Bytes) : Prop where
  /-- It is inside quotes if one is open. -/
  quoted : (r == .quoted) = quoted
  /-- The script goes on. -/
  ne_ended : r ≠ .ended
  /-- It is in no comment. -/
  ne_comment : r ≠ .comment
  /-- No comment begins at the slash before it. -/
  head : r = .slash → s.head? ≠ some 0x2F

theorem Region.holds_plain (s : Bytes) : Region.plain.Holds false s :=
  ⟨rfl, by decide, by decide, fun h => absurd h (by decide)⟩

theorem Region.holds_quoted (s : Bytes) : Region.quoted.Holds true s :=
  ⟨rfl, by decide, by decide, fun h => absurd h (by decide)⟩

theorem Region.Holds.next_quote {quoted : Bool} {s t : Bytes} (h : r.Holds quoted s) :
    (r.next 0x22).Holds (!quoted) t := by
  obtain ⟨rfl, he, hc, -⟩ := h
  cases r with
  | ended => exact absurd rfl he
  | comment => exact absurd rfl hc
  | plain | slash => exact Region.holds_quoted t
  | quoted => exact Region.holds_plain t

theorem Region.Holds.next {quoted : Bool} {b : UInt8} (h : r.Holds quoted (b :: s))
    (hb : IsInLine b) (hquote : b ≠ 0x22)
    (hcomment : quoted = false → beginsComment b s = false) : (r.next b).Holds quoted s := by
  obtain ⟨rfl, he, hc, hslash⟩ := h
  rw [Region.next, if_neg (not_or.mpr ⟨he, hb.2⟩), if_neg hb.1]
  by_cases hr : r = .quoted
  · subst hr
    rw [if_pos rfl, if_neg hquote]
    exact Region.holds_quoted s
  · have hplain : (r == .quoted) = false := beq_eq_false_iff_ne.mpr hr
    have hnone := hcomment hplain
    rw [beginsComment, Bool.or_eq_false_iff, beq_eq_false_iff_ne] at hnone
    have hstays : ¬(r = .comment ∨ b = 0x23 ∨ (r = .slash ∧ b = 0x2F)) := by
      rintro (h | h | ⟨h, rfl⟩)
      · exact hc h
      · exact hnone.1 h
      · exact hslash h rfl
    rw [if_neg hr, if_neg hstays, if_neg hquote, hplain]
    split
    case isTrue h =>
      subst h
      exact ⟨rfl, by decide, by decide, fun _ => by simpa using hnone.2⟩
    case isFalse => exact Region.holds_plain s

/-- A line in small letters is cut into its items in small letters. -/
theorem itemsFrom_lowerScript {quoted : Bool} (start : Nat) (item s : Bytes)
    (hs : ∀ b ∈ s, IsInLine b) (hq : quotedAfter false item = quoted)
    (hr : r.Holds quoted s) :
    itemsFrom quoted start (lowerItem false item).reverse (lowerScript r s) =
      (itemsFrom quoted start item.reverse s).map Stretch.lower := by
  -- Like the lines, the item so far is kept in order.
  induction s generalizing start item quoted r with
  | nil =>
    rw [lowerScript, itemsFrom, itemsFrom, List.reverse_reverse, List.reverse_reverse]
    rfl
  | cons b s ih =>
    obtain ⟨hb, hs⟩ := List.forall_mem_cons.mp hs
    have hitem : lowerByte (r == .quoted) b :: (lowerItem false item).reverse =
        (lowerItem false (item ++ [b])).reverse := by
      rw [lowerItem_append, List.reverse_append, hq, hr.quoted]
      rfl
    have hopen : quotedAfter false (item ++ [b]) = togglesQuote quoted b := by
      rw [quotedAfter_append, hq]
      rfl
    have hquote : lowerByte (r == .quoted) b = 0x22 ↔ b = 0x22 := lowerByte_eq_iff rfl
    have hsemicolon : lowerByte (r == .quoted) b = 0x3B ↔ b = 0x3B := lowerByte_eq_iff rfl
    rw [lowerScript, itemsFrom, itemsFrom, beginsComment_lower]
    by_cases h : b = 0x22
    · have hnext : (r.next b).Holds (!quoted) s := h ▸ hr.next_quote
      have htoggles : togglesQuote quoted b = !quoted := if_pos h
      rw [if_pos (hquote.mpr h), if_pos h, hitem, ← List.reverse_concat]
      exact ih start (item ++ [b]) hs (hopen.trans htoggles) hnext
    have hsame : togglesQuote quoted b = quoted := if_neg h
    rw [hsame] at hopen
    rw [if_neg (mt hquote.mp h), if_neg h]
    cases quoted with
    | true =>
      rw [if_pos rfl, if_pos rfl, hitem, ← List.reverse_concat]
      exact ih start (item ++ [b]) hs hopen (hr.next hb h fun hq => absurd hq (by decide))
    | false =>
      rw [if_neg Bool.false_ne_true, if_neg Bool.false_ne_true]
      by_cases hcomment : beginsComment b s = true
      · rw [if_pos hcomment, if_pos hcomment, List.reverse_reverse, List.reverse_reverse]
        rfl
      have hnext := hr.next hb h fun _ => Bool.eq_false_iff.mpr hcomment
      rw [if_neg hcomment, if_neg hcomment]
      by_cases hend : b = 0x3B
      · rw [if_pos (hsemicolon.mpr hend), if_pos hend, List.map_cons, List.reverse_reverse,
          List.reverse_reverse, List.length_reverse, List.length_reverse, length_lowerItem]
        exact congrArg (_ :: ·) (ih _ [] hs rfl hnext)
      · rw [if_neg (mt hsemicolon.mp hend), if_neg hend, hitem, ← List.reverse_concat]
        exact ih start (item ++ [b]) hs hopen hnext

theorem piecesOfLine_lowerLine {line : Stretch} (h : ∀ b ∈ line.text, IsInLine b) :
    piecesOfLine line.lowerLine = (piecesOfLine line).map Piece.lower := by
  have hitems : items line.lowerLine = (items line).map Stretch.lower :=
    itemsFrom_lowerScript line.start [] line.text h rfl (Region.holds_plain _)
  rw [piecesOfLine, hitems, piecesOfLine, List.flatMap_map, List.map_flatMap]
  exact List.flatMap_congr fun item _ => piecesOfItem_lower item

/-- A script has the same pieces in small letters. -/
theorem pieces_lowerScript (s : Bytes) :
    pieces (lowerScript .plain s) = (pieces s).map Piece.lower := by
  rw [pieces, lines_lowerScript, pieces, List.flatMap_map, List.map_flatMap]
  exact List.flatMap_congr fun line hline => piecesOfLine_lowerLine (isInLine_of_mem_lines hline)

/-! ## Programs -/

/-- A label with a name in small letters. -/
def Label.lower (l : Label) : Label :=
  ⟨folded l.name, l.target⟩

namespace Program

/-- A program in small letters outside quotes. -/
def lower (p : Program) : Program :=
  ⟨p.statements.map Stretch.lower, p.labels.map Label.lower⟩

/-- Labels are found by their names in either case. -/
theorem resolve_folded (p : Program) (name : Bytes) : p.resolve (folded name) = p.resolve name := by
  simp only [resolve, sameWord_folded_right]

theorem resolve_lower (p : Program) (name : Bytes) : p.lower.resolve name = p.resolve name := by
  have hsame : (fun l : Label => sameWord l.name name) ∘ Label.lower =
      fun l => sameWord l.name name :=
    funext fun l => sameWord_folded_left l.name name
  rw [resolve, lower, Array.find?_map, hsame, resolve]
  cases p.labels.find? fun l => sameWord l.name name <;> rfl

variable {limits : Limits}

theorem add_lower (limits : Limits) (p : Program) (piece : Piece) :
    p.lower.add limits piece.lower = (p.add limits piece).map lower := by
  cases piece with
  | label name =>
    rw [Piece.lower, add, add, resolve_lower, resolve_folded, lower, Array.size_map,
      Array.size_map]
    split
    case isTrue => rfl
    case isFalse =>
      split
      case isTrue => rfl
      case isFalse =>
        rw [Except.map, lower, Array.map_push]
        rfl
  | statement s =>
    rw [Piece.lower, add, add, lower, Array.size_map]
    split
    case isTrue => rfl
    case isFalse => rw [Except.map, lower, Array.map_push]

theorem foldlM_lower (limits : Limits) (p : Program) (ps : List Piece) :
    (ps.map Piece.lower).foldlM (add limits) p.lower =
      (ps.foldlM (add limits) p).map lower := by
  induction ps generalizing p with
  | nil => rfl
  | cons piece ps ih =>
    rw [List.map_cons, List.foldlM_cons, List.foldlM_cons, add_lower]
    cases p.add limits piece with
    | error e => rfl
    | ok p => exact ih p

/-- A script stands for the same program in small letters. -/
theorem parse_lowerScript (limits : Limits) (s : Bytes) :
    parse limits (lowerScript .plain s) = (parse limits s).map lower := by
  have hempty : ({} : Program).lower = {} := by rw [lower, Array.map_empty, Array.map_empty]
  rw [parse, pieces_lowerScript, parse, ← foldlM_lower, hempty]

/-- A program does the same in small letters. -/
theorem instructions_lower (p : Program) : p.lower.instructions = p.instructions := by
  have hresolve : p.lower.resolve = p.resolve := funext p.resolve_lower
  rw [instructions, hresolve, lower, Array.map_map, instructions]
  refine congrArg (Array.map · p.statements) (funext fun s => ?_)
  exact Instruction.read_lowerItem p.resolve_folded s.text

end Program

/-! ## Runs -/

variable {σ : Type} {board : Pins.Board σ} {code : Array Instruction}

/-- Without a time limit a run finishes in the same way whatever is sampled, as long as it is not
cancelled. -/
theorem Run.finish_of_not_cancelled {watch : Run σ → Sample}
    (hw : ∀ r, (watch r).cancelled = false) (fuel : Nat) (r : Run σ) :
    r.finish board code 0 watch fuel = r.finish board code 0 (fun _ => .calm) fuel := by
  induction fuel generalizing r with
  | zero => rfl
  | succ fuel ih =>
    rw [finish, finish, step_of_not_cancelled (hw r)]
    cases r.step board code 0 .calm with
    | inl done => rfl
    | inr r => exact ih r

/-- What comes of a script without a time limit, if something does within `fuel` steps : why it
is no program, or the outcome of its run, and the machine afterwards. -/
def attempt (limits : Limits) (board : Pins.Board σ) (watch : Run σ → Sample) (fuel : Nat)
    (m : Machine σ) (source : Bytes) : Option (Except ProgramError Outcome × Machine σ) :=
  match Program.parse limits source with
  | .error e => some (.error e, m)
  | .ok p => ((Run.start m).finish board p.instructions 0 watch fuel).map fun done =>
    (.ok done.1, done.2)

theorem attempt_lowerScript (limits : Limits) (board : Pins.Board σ) (watch : Run σ → Sample)
    (fuel : Nat) (m : Machine σ) (source : Bytes) :
    attempt limits board watch fuel m (lowerScript .plain source) =
      attempt limits board watch fuel m source := by
  rw [attempt, Program.parse_lowerScript, attempt]
  cases Program.parse limits source with
  | error e => rfl
  | ok p =>
    rw [Except.map]
    simp only [p.instructions_lower]

/-- What comes of a script that is not cancelled does not depend on what is sampled. -/
theorem attempt_of_not_cancelled (limits : Limits) {watch : Run σ → Sample}
    (hw : ∀ r, (watch r).cancelled = false) (fuel : Nat) (m : Machine σ) (source : Bytes) :
    attempt limits board watch fuel m source =
      attempt limits board (fun _ => .calm) fuel m source := by
  rw [attempt, attempt]
  cases Program.parse limits source with
  | error e => rfl
  | ok p => simp only [Run.finish_of_not_cancelled hw]

/-- The same comes of two scripts that differ only in the case of letters outside quotes, after
the same number of steps : the same error, or the same value, ending, registers and mailbox, and
the same uses of the pins in the same order. If nothing comes of the one, nothing comes of the
other. This holds whatever the board is and whatever it is that gives the samples, as long as
nobody cancels. -/
theorem Recased.attempt_eq (h : Recased .plain s t) (limits : Limits) (board : Pins.Board σ)
    {watch watch' : Run (σ × List Pins.Use) → Sample} (hw : ∀ r, (watch r).cancelled = false)
    (hw' : ∀ r, (watch' r).cancelled = false) (arguments : List Int32) (mailbox : Mailbox)
    (pins : σ) (fuel : Nat) :
    attempt limits board.logged watch fuel (.load arguments mailbox (pins, [])) s =
      attempt limits board.logged watch' fuel (.load arguments mailbox (pins, [])) t := by
  rw [attempt_of_not_cancelled limits hw, attempt_of_not_cancelled limits hw',
    ← attempt_lowerScript, h.lowerScript_eq, attempt_lowerScript]

/-- Two spellings of a script that switches a pin on, with samples that come late and with ones
that do not : labels, registers, levels and numbers are in either case, and so is a comment with
a quote in it, and a text in quotes is the same. -/
theorem attempt_eq_of_spellings :
    let a := List.intercalate [0x0A] (List.map Bytes.ofText
      ["Again: DREAD 7 R0 # \"Is it?", "IF R0 == HIGH GOTO Done",
        "PRINT \"On; Off\"; dwrite 7 True", "Goto AGAIN; Done: RET 0x1F"])
    let b := List.intercalate [0x0A] (List.map Bytes.ofText
      ["again: dread 7 r0 # \"IS IT?", "if r0 == high goto DONE",
        "print \"On; Off\"; DWRITE 7 TRUE", "GOTO Again; done: ret 0X1f"])
    let late : Run (Pins.Bank × List Pins.Use) → Sample := fun r => ⟨r.steps * 5000, false⟩
    let board := Pins.Bank.board.logged
    let m := Machine.load [3, 4] (.empty 16) (({} : Pins.Bank), [])
    a ≠ b ∧ Recased .plain a b ∧
      attempt {} board (fun _ => .calm) 8 m a = attempt {} board late 8 m b ∧
      (attempt {} board late 8 m b).map (fun done => (done.1.toOption,
          done.2.registers.toList.take 3, done.2.mailbox.text, done.2.pins.2.reverse)) =
        some (some ⟨31, .returned, 8⟩, [1, 4, 0], Bytes.ofText "On; Off",
          [.digitalRead 7, .action (.digital 7 true), .digitalRead 7]) := by
  intro a b late board m
  have hrecased : Recased .plain a b := recased_of_lowerScript_eq (by decide +kernel)
  refine ⟨by decide +kernel, hrecased, ?_, by decide +kernel⟩
  exact hrecased.attempt_eq {} Pins.Bank.board (fun _ => rfl) (fun _ => rfl) [3, 4] (.empty 16) {} 8

end Coprocessor.Script
