import Coprocessor.Proofs.Script.Table

/-!
# Scripts joined by a line feed

The lines of a text do not depend on the place where it stands, but for their own places, and what
a line is cut into depends on nothing but the line. So behind a line feed a text has the pieces that
it has on its own, further on by the bytes before it (`pieces_join`), as long as no NUL ends the
script before : a quote or a comment ends with its line, whatever comes next.

The tables of two joined scripts are those of both, one after the other (`Program.parse_join`). A
name means what it means in the first, and if that has no such label, what it means in the second.
A label at the end of the first is bound to the statement after its last one, which is now the first
one of the second.
-/

namespace Coprocessor.Script

/-! ## Places -/

/-- A stretch that stands further on. -/
def Stretch.shift (k : Nat) (s : Stretch) : Stretch :=
  ⟨s.start + k, s.text⟩

/-- A piece that stands further on. -/
def Piece.shift (k : Nat) : Piece → Piece
  | .label name => .label name
  | .statement s => .statement (s.shift k)

variable (k : Nat)

theorem linesFrom_shift (start : Nat) (line s : Bytes) :
    linesFrom (start + k) line s = (linesFrom start line s).map (Stretch.shift k) := by
  induction s generalizing start line with
  | nil => rfl
  | cons b s ih =>
    rw [linesFrom, linesFrom]
    split
    case isTrue =>
      have hstart : start + k + line.length + 1 = start + line.length + 1 + k := by omega
      rw [hstart, ih]
      rfl
    case isFalse => exact ih start (b :: line)

theorem itemsFrom_shift (quoted : Bool) (start : Nat) (item s : Bytes) :
    itemsFrom quoted (start + k) item s =
      (itemsFrom quoted start item s).map (Stretch.shift k) := by
  induction s generalizing quoted start item with
  | nil => rfl
  | cons b s ih =>
    unfold itemsFrom
    split
    · exact ih _ _ _
    split
    · exact ih _ _ _
    split
    · rfl
    split
    · have hstart : start + k + item.length + 1 = start + item.length + 1 + k := by omega
      rw [hstart, ih]
      rfl
    · exact ih _ _ _

theorem trim_shift (s : Stretch) : (s.shift k).trim = s.trim.shift k := by
  rw [Stretch.trim, Stretch.shift, Stretch.trim, Stretch.shift, Nat.add_right_comm]

theorem drop_shift (n : Nat) (s : Stretch) : (s.shift k).drop n = (s.drop n).shift k := by
  rw [Stretch.drop, Stretch.shift, Stretch.drop, Stretch.shift, Nat.add_right_comm]

theorem piecesOfTrimmed_shift (item : Stretch) :
    piecesOfTrimmed (item.shift k) = (piecesOfTrimmed item).map (Piece.shift k) := by
  fun_induction piecesOfTrimmed item with
  | case1 item name h ih =>
    rw [@piecesOfTrimmed_of_label (item.shift k) name h, drop_shift, trim_shift, ih]
    rfl
  | case2 item h he =>
    rw [@piecesOfTrimmed_of_no_label (item.shift k) h]
    exact if_pos he
  | case3 item h he =>
    rw [@piecesOfTrimmed_of_no_label (item.shift k) h]
    exact if_neg he

theorem piecesOfLine_shift (line : Stretch) :
    piecesOfLine (line.shift k) = (piecesOfLine line).map (Piece.shift k) := by
  have hitems : items (line.shift k) = (items line).map (Stretch.shift k) :=
    itemsFrom_shift k false line.start [] line.text
  rw [piecesOfLine, hitems, piecesOfLine, List.flatMap_map, List.map_flatMap]
  refine List.flatMap_congr fun item _ => ?_
  rw [piecesOfItem, trim_shift, piecesOfTrimmed_shift, piecesOfItem]

theorem stretches_shift (ps : List Piece) :
    stretches (ps.map (Piece.shift k)) = (stretches ps).map (Stretch.shift k) := by
  rw [stretches, List.filterMap_map, stretches, List.map_filterMap]
  refine List.filterMap_congr fun p _ => ?_
  cases p <;> rfl

theorem labelNames_shift (ps : List Piece) :
    Program.labelNames (ps.map (Piece.shift k)) = Program.labelNames ps := by
  rw [Program.labelNames, List.filterMap_map, Program.labelNames]
  refine List.filterMap_congr fun p _ => ?_
  cases p <;> rfl

theorem locate_shift (name : Bytes) (ps : List Piece) :
    locate name (ps.map (Piece.shift k)) = locate name ps := by
  have hunplaced : (ps.map (Piece.shift k)).map Piece.unplaced = ps.map Piece.unplaced := by
    rw [List.map_map]
    refine List.map_congr_left fun p _ => ?_
    cases p <;> rfl
  rw [← locate_unplaced, hunplaced, locate_unplaced]

/-! ## Joined texts -/

/-- A line feed ends a line, and the next one begins behind it. -/
theorem linesFrom_join (start : Nat) (line a b : Bytes) : linesFrom start line (a ++ 0x0A :: b) =
    linesFrom start line a ++ linesFrom (start + line.length + a.length + 1) [] b := by
  induction a generalizing start line with
  | nil => rfl
  | cons x a ih =>
    rw [List.cons_append, linesFrom, linesFrom]
    split
    case isTrue =>
      have hstart : start + line.length + 1 + ([] : Bytes).length + a.length + 1 =
          start + line.length + (x :: a).length + 1 := by
        simp only [List.length_nil, List.length_cons]
        omega
      rw [ih, hstart, List.cons_append]
    case isFalse =>
      have hstart : start + (x :: line).length + a.length + 1 =
          start + line.length + (x :: a).length + 1 := by
        simp only [List.length_cons]
        omega
      rw [ih, hstart]

variable {a b : Bytes}

/-- The lines of joined texts are those of both. -/
theorem lines_join (ha : ∀ x ∈ a, x ≠ 0) :
    lines (a ++ 0x0A :: b) = lines a ++ (lines b).map (Stretch.shift (a.length + 1)) := by
  have hkept : ∀ x ∈ a, (x != 0) = true := fun x hx => bne_iff_ne.mpr (ha x hx)
  rw [lines, List.takeWhile_append_of_pos hkept, List.takeWhile_cons_of_pos (by decide),
    linesFrom_join, lines, List.takeWhile_eq_self_iff.mpr hkept, lines, ← linesFrom_shift]
  simp only [List.length_nil, Nat.add_zero, Nat.zero_add]

/-- The pieces of joined texts are those of both. -/
theorem pieces_join (ha : ∀ x ∈ a, x ≠ 0) :
    pieces (a ++ 0x0A :: b) = pieces a ++ (pieces b).map (Piece.shift (a.length + 1)) := by
  rw [pieces, lines_join ha, List.flatMap_append, pieces, pieces, List.flatMap_map,
    List.map_flatMap]
  exact congrArg (_ ++ ·) (List.flatMap_congr fun line _ => piecesOfLine_shift _ line)

/-! ## Joined programs -/

namespace Program

variable {limits : Limits} {p : Program}

/-- The program of two texts joined by a line feed has the statements of the first and then those of
the second, further on by the bytes before them. A name is bound as in the first if that has such a
label, and otherwise as in the second, the statements of the first being before. A label at the end
of the first is bound to the first statement of the second. Both are programs under the limits of
the whole. This holds of all texts, if there is no NUL in the first one. -/
theorem parse_join {a b : Bytes} (ha : ∀ x ∈ a, x ≠ 0)
    (h : parse limits (a ++ 0x0A :: b) = .ok p) :
    ∃ pa pb, parse limits a = .ok pa ∧ parse limits b = .ok pb ∧
      p.statements = pa.statements ++ pb.statements.map (Stretch.shift (a.length + 1)) ∧
      (∀ name, p.resolve name =
        (pa.resolve name).or ((pb.resolve name).map (pa.statements.size + ·))) ∧
      ∀ name, pa.resolve name = some pa.statements.size →
        p.resolve name = some pa.statements.size ∧
        p.statements[pa.statements.size]? =
          pb.statements[0]?.map (Stretch.shift (a.length + 1)) := by
  have hpieces := pieces_join (b := b) ha
  have hstretches : stretches (pieces (a ++ 0x0A :: b)) = stretches (pieces a) ++
      (stretches (pieces b)).map (Stretch.shift (a.length + 1)) := by
    rw [hpieces, stretches_append, stretches_shift]
  have hlabels : labelNames (pieces (a ++ 0x0A :: b)) =
      labelNames (pieces a) ++ labelNames (pieces b) := by
    rw [hpieces, labelNames_append, labelNames_shift]
  obtain ⟨rfl, hfits⟩ := parse_eq_ok_iff.mp h
  obtain ⟨hcount, hnames⟩ := fits_whole_iff.mp hfits
  rw [hstretches, List.length_append, List.length_map] at hcount
  rw [hlabels, List.map_append] at hnames
  have hpa : parse limits a = .ok (whole a) :=
    parse_eq_ok_iff.mpr ⟨rfl, fits_whole_of_subset ((Nat.le_add_right _ _).trans hcount) hnames
      fun _ hname => List.mem_dedup.mpr (List.mem_append_left _ hname)⟩
  have hpb : parse limits b = .ok (whole b) :=
    parse_eq_ok_iff.mpr ⟨rfl, fits_whole_of_subset ((Nat.le_add_left _ _).trans hcount) hnames
      fun _ hname => List.mem_dedup.mpr (List.mem_append_right _ hname)⟩
  have hstatements : (whole (a ++ 0x0A :: b)).statements =
      (whole a).statements ++ (whole b).statements.map (Stretch.shift (a.length + 1)) := by
    rw [← Array.toList_inj, Array.toList_append, Array.toList_map, statements_whole,
      statements_whole, statements_whole, hstretches]
  have hresolve : ∀ name, (whole (a ++ 0x0A :: b)).resolve name =
      ((whole a).resolve name).or
        (((whole b).resolve name).map ((whole a).statements.size + ·)) := by
    intro name
    have hsize : (texts (pieces a)).length = (whole a).statements.size := by
      rw [← texts_of_parse hpa, List.length_map, Array.length_toList]
    rw [resolve_of_parse h, hpieces, locate_append, locate_shift, hsize, resolve_of_parse hpa,
      resolve_of_parse hpb]
  refine ⟨whole a, whole b, hpa, hpb, hstatements, hresolve, fun name hname => ⟨?_, ?_⟩⟩
  · rw [hresolve, hname, Option.some_or]
  · rw [hstatements, Array.getElem?_append_right (Nat.le_refl _), Nat.sub_self,
      Array.getElem?_map]

/-- The first text ends within a quote and a comment, and the second one has a label of the same
name as one of the first, but in other case. -/
theorem parse_join_of_open_quote :
    let a := List.intercalate [0x0A] (List.map Bytes.ofText ["x: PRINT \"a;b", "y: # z: \""])
    let b := List.intercalate [0x0A] (List.map Bytes.ofText ["STOP; X: c:", "GOTO y"])
    ∃ p pa pb, parse ⟨3, 3⟩ (a ++ 0x0A :: b) = .ok p ∧ parse ⟨3, 3⟩ a = .ok pa ∧
      parse ⟨3, 3⟩ b = .ok pb ∧
      p.statements = pa.statements ++ pb.statements.map (Stretch.shift 24) ∧
      p.resolve (Bytes.ofText "X") = some 0 ∧ pb.resolve (Bytes.ofText "X") = some 1 ∧
      p.resolve (Bytes.ofText "C") = some 2 ∧ p.resolve (Bytes.ofText "z") = none ∧
      p.resolve (Bytes.ofText "Y") = some 1 ∧
      p.statements[1]? = pb.statements[0]?.map (Stretch.shift 24) := by
  intro a b
  have hjoined : parse ⟨3, 3⟩ (a ++ 0x0A :: b) = .ok (whole (a ++ 0x0A :: b)) :=
    parse_eq_ok_iff.mpr ⟨rfl, by decide +kernel, by decide +kernel⟩
  obtain ⟨pa, pb, hpa, hpb, hstatements, hresolve, htrailing⟩ :=
    parse_join (a := a) (b := b) (by decide +kernel) hjoined
  obtain ⟨rfl, -⟩ := parse_eq_ok_iff.mp hpa
  obtain ⟨rfl, -⟩ := parse_eq_ok_iff.mp hpb
  have hlength : a.length = 23 := by decide +kernel
  have hsize : (whole a).statements.size = 1 := by decide +kernel
  rw [hlength] at hstatements
  rw [hsize, hlength] at htrailing
  obtain ⟨hy, hfirst⟩ := htrailing (Bytes.ofText "Y") (by decide +kernel)
  refine ⟨_, _, _, hjoined, hpa, hpb, hstatements, ?_, by decide +kernel, ?_, ?_, hy, hfirst⟩
  all_goals
    rw [hresolve]
    decide +kernel

end Program

end Coprocessor.Script
