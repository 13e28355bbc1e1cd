import Coprocessor.Proofs.Script.Layout

/-!
# Where statements stand

Each stretch that a script is cut into stands inside the one that it is cut from, and the stretches
of a cut stand one after the other without overlap (`Stretch.Parts`) : lines in the script, items in
a line, statements in an item. Cuts of cuts are cuts (`Stretch.Parts.flatMap`), so the statements of
a script stand in it in order (`parts_pieces`), whatever bytes the script is made of. What a
statement is besides, the item that it is left of tells (`isBare_of_mem_pieces`).
-/

namespace Coprocessor.Script

/-! ## Stretches in stretches -/

namespace Stretch

/-- A stretch stands inside another one. -/
def Inside (s outer : Stretch) : Prop :=
  ∃ before after, outer.text = before ++ s.text ++ after ∧ s.start = outer.start + before.length

theorem Inside.refl (s : Stretch) : s.Inside s :=
  ⟨[], [], by simp, rfl⟩

theorem Inside.trans {s t outer : Stretch} (h : s.Inside t) (h' : t.Inside outer) :
    s.Inside outer := by
  obtain ⟨before, after, htext, hstart⟩ := h
  obtain ⟨before', after', htext', hstart'⟩ := h'
  refine ⟨before' ++ before, after ++ after', ?_, ?_⟩
  · rw [htext', htext]
    simp
  · rw [hstart, hstart', List.length_append, Nat.add_assoc]

theorem Inside.start_le {s outer : Stretch} (h : s.Inside outer) : outer.start ≤ s.start := by
  obtain ⟨before, -, -, hstart⟩ := h
  rw [hstart]
  exact Nat.le_add_right _ _

theorem Inside.stop_le {s outer : Stretch} (h : s.Inside outer) : s.stop ≤ outer.stop := by
  obtain ⟨before, after, htext, hstart⟩ := h
  rw [stop, stop, htext, hstart, List.length_append, List.length_append]
  omega

theorem Inside.subset {s outer : Stretch} (h : s.Inside outer) : s.text ⊆ outer.text := by
  obtain ⟨before, after, htext, -⟩ := h
  rw [htext, List.append_assoc]
  exact List.subset_append_of_subset_right _ (List.subset_append_left _ _)

/-- Stretches stand inside another one, one after the other. -/
structure Parts (outer : Stretch) (parts : List Stretch) : Prop where
  /-- Each of them stands inside. -/
  inside : ∀ s ∈ parts, s.Inside outer
  /-- They do not overlap. -/
  ordered : parts.Pairwise fun s t => s.stop ≤ t.start

namespace Parts

variable {outer outer' : Stretch} {parts : List Stretch} {start : Nat} {text rest : Bytes}

theorem nil (outer : Stretch) : Parts outer [] :=
  ⟨nofun, .nil⟩

theorem singleton {s : Stretch} (h : s.Inside outer) : Parts outer [s] :=
  ⟨List.forall_mem_singleton.mpr h, List.pairwise_singleton _ _⟩

theorem trans (h : Parts outer parts) (h' : outer.Inside outer') : Parts outer' parts :=
  ⟨fun s hs => (h.inside s hs).trans h', h.ordered⟩

/-- A stretch that ends with its text. -/
theorem front (start : Nat) (text rest : Bytes) : Parts ⟨start, text ++ rest⟩ [⟨start, text⟩] :=
  singleton ⟨[], rest, rfl, rfl⟩

/-- A stretch that ends at a byte, and the parts of what follows it. -/
theorem cut {b : UInt8} (h : Parts ⟨start + text.length + 1, rest⟩ parts) :
    Parts ⟨start, text ++ b :: rest⟩ (⟨start, text⟩ :: parts) := by
  have hrest : Inside ⟨start + text.length + 1, rest⟩ ⟨start, text ++ b :: rest⟩ :=
    ⟨text ++ [b], [], by simp, by simp [Nat.add_assoc]⟩
  refine ⟨List.forall_mem_cons.mpr ⟨⟨[], b :: rest, rfl, rfl⟩, (h.trans hrest).inside⟩,
    List.pairwise_cons.mpr ⟨fun s hs => ?_, h.ordered⟩⟩
  exact Nat.le_of_succ_le (h.inside s hs).start_le

/-- The parts of parts. -/
theorem flatMap {cut : Stretch → List Stretch} (h : Parts outer parts)
    (hcut : ∀ s ∈ parts, Parts s (cut s)) : Parts outer (parts.flatMap cut) := by
  refine ⟨fun s hs => ?_, List.pairwise_flatMap.mpr ⟨fun s hs => (hcut s hs).ordered, ?_⟩⟩
  · obtain ⟨t, ht, hs⟩ := List.mem_flatMap.mp hs
    exact ((hcut t ht).inside s hs).trans (h.inside t ht)
  · refine h.ordered.imp_of_mem fun {s t} hs ht hle a ha b hb => ?_
    have hstop := ((hcut s hs).inside a ha).stop_le
    have hstart := ((hcut t ht).inside b hb).start_le
    omega

end Parts

end Stretch

open Stretch (Parts)

/-! ## Blanks at ends -/

theorem exists_trim (s : Bytes) :
    ∃ back, (∀ b ∈ back, Ascii.isBlank b = true) ∧
      s = s.takeWhile Ascii.isBlank ++ Ascii.trim s ++ back := by
  have hback : ∃ back, (∀ b ∈ back, Ascii.isBlank b = true) ∧
      Ascii.trimFront s = Ascii.trim s ++ back := by
    have h := List.takeWhile_append_dropWhile (p := Ascii.isBlank)
      (l := (Ascii.trimFront s).reverse)
    refine ⟨((Ascii.trimFront s).reverse.takeWhile Ascii.isBlank).reverse,
      fun b hb => List.mem_takeWhile_imp (List.mem_reverse.mp hb), ?_⟩
    rw [Ascii.trim, Ascii.trimBack, ← List.reverse_append, h, List.reverse_reverse]
  obtain ⟨back, hblank, hback⟩ := hback
  refine ⟨back, hblank, ?_⟩
  rw [List.append_assoc, ← hback, Ascii.trimFront, List.takeWhile_append_dropWhile]

theorem Stretch.inside_trim (s : Stretch) : s.trim.Inside s := by
  obtain ⟨back, -, h⟩ := exists_trim s.text
  exact ⟨_, back, h, rfl⟩

theorem Stretch.inside_drop {n : Nat} {s : Stretch} (h : n ≤ s.text.length) :
    (s.drop n).Inside s :=
  ⟨s.text.take n, [], by simp [Stretch.drop], by simp [Stretch.drop, h]⟩

/-- A text has no blanks at its ends. -/
structure IsTrimmed (s : Bytes) : Prop where
  /-- It has none at its front. -/
  front : ∀ b ∈ s.head?, Ascii.isBlank b = false
  /-- It has none at its end. -/
  back : ∀ b ∈ s.getLast?, Ascii.isBlank b = false

theorem not_isBlank_of_head?_dropWhile {s : Bytes} {b : UInt8}
    (h : b ∈ (s.dropWhile Ascii.isBlank).head?) : Ascii.isBlank b = false := by
  have hnot := List.head?_dropWhile_not Ascii.isBlank s
  rw [Option.mem_def.mp h] at hnot
  exact hnot

theorem isTrimmed_trim (s : Bytes) : IsTrimmed (Ascii.trim s) := by
  constructor
  · intro b hb
    rw [Ascii.trim] at hb
    rcases hfront : Ascii.trimFront s with _ | ⟨x, t⟩
    · rw [hfront] at hb
      cases hb
    · have hx : Ascii.isBlank x = false :=
        not_isBlank_of_head?_dropWhile (s := s) (by rw [← Ascii.trimFront, hfront]; rfl)
      have hback := trimBack_append [] t hx
      rw [List.nil_append, List.nil_append] at hback
      rw [hfront, hback] at hb
      cases hb
      exact hx
  · intro b hb
    rw [Ascii.trim, Ascii.trimBack, List.getLast?_reverse] at hb
    exact not_isBlank_of_head?_dropWhile hb

/-! ## Cuts -/

/-- The lines of a text stand in it in order. -/
theorem parts_linesFrom (start : Nat) (line s : Bytes) :
    Parts ⟨start, line.reverse ++ s⟩ (linesFrom start line s) := by
  induction s generalizing start line with
  | nil => exact .front start line.reverse []
  | cons b s ih =>
    rw [linesFrom]
    split
    case isTrue =>
      refine .cut ?_
      rw [List.length_reverse]
      exact ih _ []
    case isFalse =>
      have h := ih start (b :: line)
      rwa [List.reverse_cons, List.append_assoc] at h

/-- The items of a line stand in it in order. -/
theorem parts_itemsFrom (quoted : Bool) (start : Nat) (item s : Bytes) :
    Parts ⟨start, item.reverse ++ s⟩ (itemsFrom quoted start item s) := by
  induction s generalizing quoted start item with
  | nil => exact .front start item.reverse []
  | cons b s ih =>
    have hnext (quoted : Bool) : Parts ⟨start, item.reverse ++ b :: s⟩
        (itemsFrom quoted start (b :: item) s) := by
      have h := ih quoted start (b :: item)
      rwa [List.reverse_cons, List.append_assoc] at h
    unfold itemsFrom
    split
    · exact hnext _
    split
    · exact hnext _
    split
    · exact .front start item.reverse (b :: s)
    split
    · refine .cut ?_
      rw [List.length_reverse]
      exact ih quoted _ []
    · exact hnext _

/-- The statements among pieces. -/
def stretches (ps : List Piece) : List Stretch :=
  ps.filterMap fun
    | .label _ => none
    | .statement s => some s

theorem texts_eq (ps : List Piece) : texts ps = (stretches ps).map (·.text) := by
  induction ps with
  | nil => rfl
  | cons p ps ih =>
    cases p with
    | label => exact ih
    | statement s => exact congrArg (s.text :: ·) ih

theorem stretches_append (ps qs : List Piece) :
    stretches (ps ++ qs) = stretches ps ++ stretches qs :=
  List.filterMap_append

theorem stretches_flatMap {α : Type} (l : List α) (f : α → List Piece) :
    stretches (l.flatMap f) = l.flatMap fun a => stretches (f a) :=
  List.filterMap_flatMap ..

theorem parts_piecesOfTrimmed (item : Stretch) : Parts item (stretches (piecesOfTrimmed item)) := by
  fun_induction piecesOfTrimmed item with
  | case1 item name h ih =>
    exact ih.trans ((Stretch.inside_trim _).trans
      (Stretch.inside_drop (Nat.succ_le_of_lt (length_lt_of_labelName? h))))
  | case2 item => exact .nil item
  | case3 item => exact .singleton (.refl item)

theorem parts_piecesOfLine (line : Stretch) : Parts line (stretches (piecesOfLine line)) := by
  rw [piecesOfLine, stretches_flatMap]
  refine Parts.flatMap (parts_itemsFrom false line.start [] line.text) fun item _ => ?_
  exact (parts_piecesOfTrimmed item.trim).trans item.inside_trim

/-- The statements of a script stand in it in order, before its first NUL. -/
theorem parts_pieces (source : Bytes) :
    Parts ⟨0, source.takeWhile (· != 0)⟩ (stretches (pieces source)) := by
  rw [pieces, stretches_flatMap]
  exact (parts_linesFrom 0 [] _).flatMap fun line _ => parts_piecesOfLine line

/-! ## Statements -/

/-- A text is what remains of an item without blanks at its ends and without labels. -/
structure IsBare (s : Bytes) : Prop extends IsTrimmed s where
  /-- It is not empty. -/
  ne_nil : s ≠ []
  /-- It does not begin with a name and a colon. -/
  unlabelled : ∀ name rest, s = name ++ 0x3A :: rest → ¬IsName name

theorem not_isName_of_labelName? {s name rest : Bytes} (h : labelName? s = none)
    (hs : s = name ++ 0x3A :: rest) : ¬IsName name := by
  intro hname
  rw [hs, labelName?_append hname.bytes rfl] at h
  have hfirst := hname.first
  cases hhead : name.head? with
  | none =>
    rw [hhead] at hfirst
    cases hfirst
  | some first =>
    rw [hhead] at h hfirst
    simp [show Ascii.isNameStart first = true from hfirst] at h

theorem isBare_of_mem_piecesOfTrimmed {item s : Stretch} (ht : IsTrimmed item.text)
    (hs : s ∈ stretches (piecesOfTrimmed item)) : IsBare s.text := by
  fun_induction piecesOfTrimmed item with
  | case1 item name h ih => exact ih (isTrimmed_trim _) hs
  | case2 => cases hs
  | case3 item h hne =>
    obtain rfl := List.mem_singleton.mp hs
    exact ⟨ht, by simpa using hne, fun name rest => not_isName_of_labelName? h⟩

/-- A statement of a script is bare, and stands in a line. -/
theorem isBare_of_mem_pieces {source : Bytes} {s : Stretch} (hs : s ∈ stretches (pieces source)) :
    IsBare s.text ∧ ∀ b ∈ s.text, IsInLine b := by
  rw [pieces, stretches_flatMap] at hs
  obtain ⟨line, hline, hs⟩ := List.mem_flatMap.mp hs
  have hinside := (parts_piecesOfLine line).inside s hs
  rw [piecesOfLine, stretches_flatMap] at hs
  obtain ⟨item, -, hs⟩ := List.mem_flatMap.mp hs
  exact ⟨isBare_of_mem_piecesOfTrimmed (isTrimmed_trim _) hs,
    fun b hb => isInLine_of_mem_lines hline b (hinside.subset hb)⟩

end Coprocessor.Script
