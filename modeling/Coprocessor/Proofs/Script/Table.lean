import Coprocessor.Proofs.Script.Case
import Coprocessor.Proofs.Script.Placement
import Mathlib.Data.List.Dedup
import Mathlib.Data.List.Perm.Subperm

/-!
# The tables of a program

A program is a table of statements and a table of labels, and limits only say how long these may be.
Without limits every script has its tables (`Program.whole`). A table never gets shorter as pieces
are added, so a script is refused if its tables do not fit in the end, and otherwise it stands for
them (`Program.parse_eq_ok_iff`).

The statements are those of the pieces, in order, so they stand in the script as those do. The
labels are the first ones of each name, and as they are added in between the statements, their
targets go up (`Program.Sound`). `Program.parse_orderly` puts this together.
-/

namespace Coprocessor.Script

open Ascii (folded)

namespace Program

variable {limits : Limits} {p p' : Program} {piece : Piece} {ps : List Piece} {source name : Bytes}

/-! ## Limits -/

/-- The program with one more piece, however many it has. -/
def grow (p : Program) : Piece → Program
  | .label name =>
    if (p.resolve name).isSome then p
    else { p with labels := p.labels.push ⟨name, p.statements.size⟩ }
  | .statement s => { p with statements := p.statements.push s }

/-- The program that a script stands for without limits. -/
def whole (source : Bytes) : Program :=
  (pieces source).foldl grow {}

/-- The tables of a program are within limits. -/
structure Fits (limits : Limits) (p : Program) : Prop where
  /-- The statements are. -/
  statements : p.statements.size ≤ limits.statements
  /-- The labels are. -/
  labels : p.labels.size ≤ limits.labels

/-- Tables get longer only. -/
theorem Fits.of_grow (h : (p.grow piece).Fits limits) : p.Fits limits := by
  cases piece with
  | label name =>
    rw [grow] at h
    split at h
    case isTrue => exact h
    case isFalse =>
      have hlabels := h.labels
      rw [Array.size_push] at hlabels
      exact ⟨h.statements, Nat.le_of_succ_le hlabels⟩
  | statement s =>
    have hstatements := h.statements
    rw [grow, Array.size_push] at hstatements
    exact ⟨Nat.le_of_succ_le hstatements, h.labels⟩

theorem Fits.of_foldl (h : (ps.foldl grow p).Fits limits) : p.Fits limits := by
  induction ps generalizing p with
  | nil => exact h
  | cons piece ps ih => exact (ih h).of_grow

/-- A piece is refused if the tables do not fit with it. -/
theorem add_eq_ok_iff (hp : p.Fits limits) :
    p.add limits piece = .ok p' ↔ p' = p.grow piece ∧ p'.Fits limits := by
  have refused {e : ProgramError} {q : Program} (hq : ¬q.Fits limits) :
      (.error e : Except ProgramError Program) = .ok p' ↔ p' = q ∧ p'.Fits limits :=
    iff_of_false nofun fun ⟨hp', hfits⟩ => hq (hp' ▸ hfits)
  have kept {q : Program} (hq : q.Fits limits) :
      (.ok q : Except ProgramError Program) = .ok p' ↔ p' = q ∧ p'.Fits limits := by
    rw [Except.ok.injEq, eq_comm]
    exact (and_iff_left_of_imp fun hp' => hp' ▸ hq).symm
  cases piece with
  | label name =>
    rw [add, grow]
    split
    case isTrue => exact kept hp
    case isFalse =>
      split
      case isTrue h =>
        refine refused fun hq => ?_
        have hlabels := hq.labels
        rw [Array.size_push] at hlabels
        exact Nat.not_succ_le_self _ (hlabels.trans h)
      case isFalse h =>
        refine kept ⟨hp.statements, ?_⟩
        rw [Array.size_push]
        exact Nat.lt_of_not_le h
  | statement s =>
    rw [add, grow]
    split
    case isTrue h =>
      refine refused fun hq => ?_
      have hstatements := hq.statements
      rw [Array.size_push] at hstatements
      exact Nat.not_succ_le_self _ (hstatements.trans h)
    case isFalse h =>
      refine kept ⟨?_, hp.labels⟩
      rw [Array.size_push]
      exact Nat.lt_of_not_le h

theorem foldlM_eq_ok_iff (hp : p.Fits limits) :
    ps.foldlM (add limits) p = .ok p' ↔ p' = ps.foldl grow p ∧ p'.Fits limits := by
  induction ps generalizing p with
  | nil =>
    rw [List.foldl_nil]
    exact ⟨fun h => by cases h; exact ⟨rfl, hp⟩, fun ⟨h, _⟩ => h ▸ rfl⟩
  | cons piece ps ih =>
    rw [List.foldlM_cons, List.foldl_cons]
    constructor
    case mp =>
      intro h
      cases hadd : p.add limits piece with
      | error e =>
        rw [hadd] at h
        cases h
      | ok q =>
        rw [hadd] at h
        obtain ⟨rfl, hq⟩ := (add_eq_ok_iff hp).mp hadd
        exact (ih hq).mp h
    case mpr =>
      rintro ⟨rfl, hfits⟩
      have hgrow := hfits.of_foldl
      rw [(add_eq_ok_iff hp).mpr ⟨rfl, hgrow⟩]
      exact (ih hgrow).mpr ⟨rfl, hfits⟩

/-- A script is a program if its tables fit, and then it is what it is without limits. -/
theorem parse_eq_ok_iff :
    parse limits source = .ok p ↔ p = whole source ∧ p.Fits limits :=
  foldlM_eq_ok_iff ⟨Nat.zero_le _, Nat.zero_le _⟩

/-! ## Statements -/

theorem statements_foldl :
    (ps.foldl grow p).statements.toList = p.statements.toList ++ stretches ps := by
  induction ps generalizing p with
  | nil => exact (List.append_nil _).symm
  | cons piece ps ih =>
    rw [List.foldl_cons, ih]
    cases piece with
    | label name =>
      rw [grow]
      split <;> rfl
    | statement s => simp [grow, stretches]

theorem statements_whole (source : Bytes) :
    (whole source).statements.toList = stretches (pieces source) :=
  statements_foldl

/-! ## Labels -/

/-- The names of the labels among pieces. -/
def labelNames (ps : List Piece) : List Bytes :=
  ps.filterMap fun
    | .label name => some name
    | .statement _ => none

theorem mem_labelNames : name ∈ labelNames ps ↔ .label name ∈ ps := by
  refine List.mem_filterMap.trans ⟨?_, fun h => ⟨_, h, rfl⟩⟩
  rintro ⟨piece, hpiece, h⟩
  cases piece with
  | label l => exact Option.some.inj h ▸ hpiece
  | statement => cases h

theorem labelNames_append (ps qs : List Piece) :
    labelNames (ps ++ qs) = labelNames ps ++ labelNames qs :=
  List.filterMap_append

/-- The names of the labels of a program, in small letters. -/
def names (p : Program) : List Bytes :=
  p.labels.toList.map fun l => folded l.name

theorem isSome_resolve_iff : (p.resolve name).isSome = true ↔ folded name ∈ p.names := by
  simp [resolve, names, Ascii.sameWord, Array.find?_isSome, folded]

theorem names_push (p : Program) (l : Label) :
    names { p with labels := p.labels.push l } = p.names ++ [folded l.name] := by
  simp [names]

/-- A new label keeps names different. -/
theorem nodup_names_push {label : Label} (h : p.names.Nodup)
    (hnew : folded label.name ∉ p.names) :
    (names { p with labels := p.labels.push label }).Nodup := by
  rw [names_push]
  exact List.nodup_append.mpr ⟨h, List.nodup_singleton _, fun a ha b hb hab =>
    hnew (List.mem_singleton.mp hb ▸ hab ▸ ha)⟩

/-- The labels of a program have different names, and their targets go up, to the number of
statements at most. -/
structure Sound (p : Program) : Prop where
  /-- Names are different. -/
  nodup : p.names.Nodup
  /-- Targets go up. -/
  ordered : p.labels.toList.Pairwise fun k l => k.target ≤ l.target
  /-- They are statements, or the end. -/
  bounded : ∀ l ∈ p.labels, l.target ≤ p.statements.size

theorem sound_empty : Sound {} :=
  ⟨List.nodup_nil, .nil, nofun⟩

theorem Sound.grow (h : p.Sound) (piece : Piece) : (p.grow piece).Sound := by
  cases piece with
  | label name =>
    rw [Program.grow]
    split
    case isTrue => exact h
    case isFalse hnew =>
      rw [isSome_resolve_iff] at hnew
      refine ⟨nodup_names_push h.nodup hnew, ?_, fun l hl => ?_⟩
      · rw [Array.toList_push]
        refine List.pairwise_append.mpr
          ⟨h.ordered, List.pairwise_singleton _ _, fun k hk l hl => ?_⟩
        rw [List.mem_singleton.mp hl]
        exact h.bounded k (Array.mem_toList_iff.mp hk)
      · rcases Array.mem_push.mp hl with hl | rfl
        · exact h.bounded l hl
        · exact Nat.le_refl _
  | statement s =>
    refine ⟨h.nodup, h.ordered, fun l hl => ?_⟩
    rw [Program.grow, Array.size_push]
    exact Nat.le_succ_of_le (h.bounded l hl)

theorem Sound.foldl (h : p.Sound) (ps : List Piece) : (ps.foldl Program.grow p).Sound := by
  induction ps generalizing p with
  | nil => exact h
  | cons piece ps ih => exact ih (h.grow piece)

theorem sound_whole (source : Bytes) : (whole source).Sound :=
  sound_empty.foldl _

theorem mem_names_grow : name ∈ (p.grow piece).names ↔
    name ∈ p.names ∨ name ∈ (labelNames [piece]).map folded := by
  cases piece with
  | label l =>
    rw [grow]
    split
    case isTrue hold =>
      rw [isSome_resolve_iff] at hold
      simpa [labelNames] using fun h : name = folded l => h ▸ hold
    case isFalse =>
      rw [names_push, List.mem_append]
      simp [labelNames]
  | statement s => simp [grow, labelNames, names]

theorem mem_names_foldl : name ∈ (ps.foldl grow p).names ↔
    name ∈ p.names ∨ name ∈ (labelNames ps).map folded := by
  induction ps generalizing p with
  | nil => simp [labelNames]
  | cons piece ps ih =>
    rw [List.foldl_cons, ih, mem_names_grow, or_assoc, ← List.mem_append, ← List.map_append,
      ← labelNames_append, List.singleton_append]

/-- There are as many labels as names that differ in more than case. -/
theorem size_labels_whole (source : Bytes) :
    (whole source).labels.size = ((labelNames (pieces source)).map folded).dedup.length := by
  have hperm : (whole source).names.Perm ((labelNames (pieces source)).map folded).dedup := by
    refine (List.perm_ext_iff_of_nodup (sound_whole source).nodup (List.nodup_dedup _)).mpr ?_
    intro name
    rw [List.mem_dedup, whole, mem_names_foldl]
    exact or_iff_right (List.not_mem_nil)
  have hlength := hperm.length_eq
  rwa [names, List.length_map, Array.length_toList] at hlength

theorem fits_whole_iff : (whole source).Fits limits ↔
    (stretches (pieces source)).length ≤ limits.statements ∧
      ((labelNames (pieces source)).map folded).dedup.length ≤ limits.labels := by
  rw [← statements_whole, Array.length_toList, ← size_labels_whole]
  exact ⟨fun h => ⟨h.statements, h.labels⟩, fun h => ⟨h.1, h.2⟩⟩

/-- A script keeps within limits if it has no more statements and its labels have no names but
some. -/
theorem fits_whole_of_subset {ds : List Bytes}
    (hs : (stretches (pieces source)).length ≤ limits.statements)
    (hds : ds.length ≤ limits.labels) (hl : (labelNames (pieces source)).map folded ⊆ ds) :
    (whole source).Fits limits := by
  refine fits_whole_iff.mpr ⟨hs, le_trans (List.Subperm.length_le ?_) hds⟩
  exact (List.nodup_dedup _).subperm fun name h => hl (List.mem_dedup.mp h)

/-! ## Together -/

/-- The tables of a program are in order, and tell of its script what they may. -/
structure Orderly (source : Bytes) (p : Program) : Prop where
  /-- Statements are stretches of the script. -/
  inside : ∀ s ∈ p.statements, s.Inside ⟨0, source⟩
  /-- They end in it. -/
  stop_le : ∀ s ∈ p.statements, s.stop ≤ source.length
  /-- They are not empty, have no blanks at their ends and do not begin with labels. -/
  bare : ∀ s ∈ p.statements, IsBare s.text
  /-- They hold no line feed and no NUL. -/
  inLine : ∀ s ∈ p.statements, ∀ b ∈ s.text, IsInLine b
  /-- They do not overlap. -/
  ordered : p.statements.toList.Pairwise fun s t => s.stop ≤ t.start
  /-- Labels differ in more than case. -/
  distinct : p.labels.toList.Pairwise fun k l => Ascii.sameWord k.name l.name = false
  /-- Targets go up. -/
  targets : p.labels.toList.Pairwise fun k l => k.target ≤ l.target
  /-- They are statements, or the end. -/
  bounded : ∀ l ∈ p.labels, l.target ≤ p.statements.size

theorem orderly_whole (source : Bytes) : (whole source).Orderly source := by
  have hsound := sound_whole source
  have hparts := parts_pieces source
  rw [← statements_whole] at hparts
  have hinside : ∀ s ∈ (whole source).statements, s.Inside ⟨0, source⟩ := fun s hs =>
    (hparts.inside s (Array.mem_toList_iff.mpr hs)).trans
      ⟨[], source.dropWhile (· != 0), (List.takeWhile_append_dropWhile).symm, rfl⟩
  have hbare : ∀ s ∈ (whole source).statements, IsBare s.text ∧ ∀ b ∈ s.text, IsInLine b :=
    fun s hs => isBare_of_mem_pieces (statements_whole source ▸ Array.mem_toList_iff.mpr hs)
  refine ⟨hinside, fun s hs => ?_, fun s hs => (hbare s hs).1, fun s hs => (hbare s hs).2,
    hparts.ordered, ?_, hsound.ordered, hsound.bounded⟩
  · have hstop := (hinside s hs).stop_le
    rwa [Stretch.stop.eq_def ⟨0, source⟩, Nat.zero_add] at hstop
  · exact (List.pairwise_map.mp hsound.nodup).imp beq_eq_false_iff_ne.mpr

/-- A script is a program if the statements that it has are within the limit and its labels are,
those that differ in case only counted once, whatever bytes it is made of. The program is that
without limits. Its statements stand in the script one after the other without overlap; none is
empty, begins or ends with a blank, holds a line feed or a NUL, or begins with a label. Labels
differ in more than case, and their targets go up, to the number of statements at most. -/
theorem parse_orderly (source : Bytes) (limits : Limits) (p : Program) :
    (parse limits source = .ok p ↔ p = whole source ∧
      (whole source).statements.size ≤ limits.statements ∧
      (whole source).labels.size ≤ limits.labels) ∧
    (whole source).statements.toList = stretches (pieces source) ∧
    (whole source).labels.size = ((labelNames (pieces source)).map folded).dedup.length ∧
    (parse limits source = .ok p → p.Orderly source) := by
  refine ⟨?_, statements_whole source, size_labels_whole source, fun h => ?_⟩
  · rw [parse_eq_ok_iff]
    exact and_congr_right fun hp => hp ▸ ⟨fun h => ⟨h.1, h.2⟩, fun h => ⟨h.1, h.2⟩⟩
  · rw [(parse_eq_ok_iff.mp h).1]
    exact orderly_whole source

/-- A script with labels in a row and one that is there twice, with a quote that is not closed, a
lone slash at the end of a line and a label at the end keeps just within limits of three statements
and four labels. -/
theorem parse_orderly_of_crowded :
    let source := List.intercalate [0x0A] (List.map Bytes.ofText
      ["a: _B: PRINT \"x;y", "A: END: STOP ;; /", " Last:"])
    ∃ p, parse ⟨3, 4⟩ source = .ok p ∧ p.Orderly source ∧ p.statements.size = 3 ∧
      p.labels.size = 4 ∧ (∀ q, parse ⟨2, 4⟩ source ≠ .ok q) ∧
      ∀ q, parse ⟨3, 3⟩ source ≠ .ok q := by
  intro source
  have hiff := fun limits p => (parse_orderly source limits p).1
  have hstatements : (whole source).statements.size = 3 := by decide +kernel
  have hlabels : (whole source).labels.size = 4 := by
    rw [(parse_orderly source ⟨3, 4⟩ {}).2.2.1]
    decide +kernel
  simp only [hstatements, hlabels] at hiff
  have hparse := (hiff ⟨3, 4⟩ (whole source)).mpr ⟨rfl, by decide, by decide⟩
  refine ⟨whole source, hparse, ?_, hstatements, hlabels, fun q h => ?_, fun q h => ?_⟩
  · exact (parse_orderly source ⟨3, 4⟩ (whole source)).2.2.2 hparse
  · exact absurd ((hiff ⟨2, 4⟩ q).mp h).2.1 (by decide)
  · exact absurd ((hiff ⟨3, 3⟩ q).mp h).2.2 (by decide)

end Program

end Coprocessor.Script
