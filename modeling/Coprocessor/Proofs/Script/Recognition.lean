import Coprocessor.Proofs.Script.Table

/-!
# Scripts that are programs

Limits are all that can keep a script from being a program (`exists_parse`) : a label is
refused only if it is new, so what counts is how many labels differ in more than case.

With the pieces of a script that is laid out (`IsScriptOf.pieces`), its program has the
statements that its items say, in order, and a name is bound to the number of statements before
the first label that is the same up to case (`IsScriptOf.parses`).
-/

namespace Coprocessor.Script

open Ascii (folded)

/-! ## Limits -/

/-- A script is a program if its statements are within the limit and its labels are among no more
names than the limit, up to case. -/
theorem exists_parse {limits : Limits} {ds : List Bytes} {source : Bytes}
    (hs : (texts (pieces source)).length ≤ limits.statements)
    (hds : ds.length ≤ limits.labels) (hl : ∀ l, .label l ∈ pieces source → folded l ∈ ds) :
    ∃ p, Program.parse limits source = .ok p := by
  rw [texts_eq, List.length_map] at hs
  refine ⟨_, Program.parse_eq_ok_iff.mpr ⟨rfl, Program.fits_whole_of_subset hs hds ?_⟩⟩
  intro name hname
  obtain ⟨l, hmem, rfl⟩ := List.mem_map.mp hname
  exact hl l (Program.mem_labelNames.mp hmem)

/-! ## What a script says -/

variable {iss : List (List Item)} {source : Bytes} {limits : Limits} {p : Program}

@[simp] theorem texts_labels (ls : List Bytes) : texts (ls.map .label) = [] := by
  induction ls with
  | nil => rfl
  | cons l ls ih => exact ih

theorem Item.texts_pieces (i : Item) : texts i.pieces = i.statement.toList := by
  rw [Item.pieces, texts_append, texts_labels, texts_statements, List.nil_append]

theorem texts_listing (iss : List (List Item)) : texts (listing iss) = saidStatements iss := by
  rw [listing, saidStatements]
  induction iss.flatten with
  | nil => rfl
  | cons i is ih =>
    rw [List.flatMap_cons, texts_append, ih, i.texts_pieces]
    cases hs : i.statement with
    | none => simp [hs]
    | some s => simp [hs]

theorem mem_saidLabels {l : Bytes} : l ∈ saidLabels iss ↔ .label l ∈ listing iss := by
  simp [saidLabels, listing, Item.pieces, label_not_mem_statements]

theorem label_mem_unplaced {l : Bytes} {ps : List Piece} :
    .label l ∈ ps.map Piece.unplaced ↔ .label l ∈ ps := by
  induction ps with
  | nil => simp
  | cons p ps ih => cases p <;> simp [Piece.unplaced, ih]

/-- A program has the statements of the items of lines, and its labels. -/
structure Program.Tells (p : Program) (iss : List (List Item)) : Prop where
  /-- Statements are those of the items, in order. -/
  statements : p.statements.toList.map (·.text) = saidStatements iss
  /-- A name is bound to the number of statements before the first label that is the same. -/
  bound : ∀ before l after name, listing iss = before ++ .label l :: after →
    Ascii.sameWord l name = true →
    (∀ l', .label l' ∈ before → Ascii.sameWord l' name = false) →
    p.resolve name = some (texts before).length
  /-- A name that no label is the same as is not bound. -/
  unbound : ∀ name, (∀ l ∈ saidLabels iss, Ascii.sameWord l name = false) → p.resolve name = none

/-- A program whose script has the pieces of items says these. -/
theorem tells_of_pieces (hp : (pieces source).map Piece.unplaced = listing iss)
    (h : Program.parse limits source = .ok p) : p.Tells iss := by
  have hresolve : ∀ name, p.resolve name = locate name (listing iss) := fun name => by
    rw [resolve_of_parse h, ← locate_unplaced, hp]
  refine ⟨?_, fun before l after name hsplit hl hbefore => ?_, fun name hname => ?_⟩
  · rw [texts_of_parse h, ← texts_unplaced, hp, texts_listing]
  · rw [hresolve, hsplit, locate_append_of_new hbefore, locate, if_pos hl]
    rfl
  · rw [hresolve]
    exact locate_eq_none fun l hl => hname l (mem_saidLabels.mpr hl)

/-- A script that is laid out in any way is a program if its statements and its labels are within
the limits, and it is the program that its items say. -/
theorem IsScriptOf.parses (h : IsScriptOf iss source) (limits : Limits)
    (hs : (saidStatements iss).length ≤ limits.statements)
    (hl : ((saidLabels iss).map folded).dedup.length ≤ limits.labels) :
    ∃ p, Program.parse limits source = .ok p ∧ p.Tells iss := by
  have hpieces := h.pieces
  obtain ⟨p, hp⟩ : ∃ p, Program.parse limits source = .ok p := by
    refine exists_parse ?_ hl fun l hmem => ?_
    · rwa [← texts_unplaced, hpieces, texts_listing]
    · rw [← label_mem_unplaced, hpieces, ← mem_saidLabels] at hmem
      exact List.mem_dedup.mpr (List.mem_map_of_mem hmem)
  exact ⟨p, hp, tells_of_pieces hpieces hp⟩

/-- A script with labels in a row and with a label at the end of a line, with semicolons and marks
of comments in quotes, with both kinds of comment, both kinds of line ends, a lone slash before a
semicolon and text behind a NUL. Names are resolved in either case. -/
theorem parses_of_crowded :
    let text := Bytes.ofText "print \"x;#//\""
    let slash := Bytes.ofText "/"
    let source := Bytes.ofText "a: _B1:print \"x;#//\" ;\t/ # c;\"" ++ [0x0D, 0x0A] ++
      Bytes.ofText "End:;A :\n  // last" ++ 0 :: Bytes.ofText "A:;"
    ∃ p, Program.parse ⟨3, 3⟩ source = .ok p ∧
      p.statements.toList.map (·.text) = [text, slash, Bytes.ofText "A :"] ∧
      p.resolve (Bytes.ofText "A") = some 0 ∧ p.resolve (Bytes.ofText "END") = some 2 ∧
      p.resolve (Bytes.ofText "print") = none := by
  intro text slash source
  let first : Item := ⟨[Bytes.ofText "a", Bytes.ofText "_B1"], some text, by decide +kernel,
    by decide +kernel⟩
  let second : Item := ⟨[], some slash, by decide +kernel, by decide +kernel⟩
  let third : Item := ⟨[Bytes.ofText "End"], none, by decide +kernel, by decide +kernel⟩
  let fourth : Item := ⟨[], some (Bytes.ofText "A :"), by decide +kernel, by decide +kernel⟩
  have noGap : IsGap [] := nofun
  have space : IsGap [0x20] := by decide +kernel
  have first_text : first.IsText _ := .label noGap (.label space (.statement noGap space))
  have second_text : second.IsText ([0x09] ++ slash ++ []) := .statement (by decide +kernel) noGap
  have third_text : third.IsText _ := .label noGap (.blank noGap)
  have fourth_text : fourth.IsText _ := .statement noGap noGap
  have first_comment : IsComment (Bytes.ofText "# c;\"") := ⟨by decide +kernel, by decide +kernel⟩
  have last_comment : IsComment (Bytes.ofText "// last") := ⟨by decide +kernel, by decide +kernel⟩
  have first_line : IsLineOf [first, second] _ :=
    .commented (.cons first_text (.cons second_text .nil)) space (.inr (by decide)) first_comment
  have second_line : IsLineOf [third, fourth] _ :=
    .bare (.cons third_text (.cons fourth_text .nil)) noGap
  have last_line : IsLineOf [] ([] ++ [0x20, 0x20] ++ Bytes.ofText "// last") :=
    .commented .nil (by decide +kernel) (.inl rfl) last_comment
  have script : IsScriptOf [[first, second], [third, fourth], []] source := by
    have laid := IsScriptOf.returnFeed first_line
      (.feed second_line (.lastEnded last_line (Bytes.ofText "A:;")))
    convert laid using 1
    decide +kernel
  obtain ⟨p, parsed, told⟩ := script.parses ⟨3, 3⟩ (by decide) (by decide +kernel)
  refine ⟨p, parsed, told.statements, ?_, ?_, ?_⟩
  · exact told.bound [] (Bytes.ofText "a") _ _ rfl (by decide +kernel) nofun
  · have others : ∀ l ∈ first.labels, Ascii.sameWord l (Bytes.ofText "END") = false := by
      decide +kernel
    refine told.bound (first.pieces ++ second.pieces) (Bytes.ofText "End") fourth.pieces _ rfl
      (by decide +kernel) fun l hl => others l ?_
    simpa [Item.pieces, statements, second] using hl
  · exact told.unbound _ (by decide +kernel)

end Coprocessor.Script
