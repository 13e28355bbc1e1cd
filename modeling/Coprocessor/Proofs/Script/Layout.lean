import Coprocessor.Proofs.Script.Listing
import Coprocessor.Proofs.Script.Quoting

/-!
# Layouts

A script says items, line by line. An item is labels and perhaps a statement (`Item`), and it can
be laid out in many ways : blanks stand around labels and statements as one likes, items of a
line are joined by semicolons, a comment ends a line behind a blank, and a line ends with or
without a carriage return. A last line need not end, and a NUL may follow with anything behind
it (`IsScriptOf`).

Whatever the layout is, the pieces of the script are those of its items (`IsScriptOf.pieces`) :
quotes are balanced in a statement, so behind each item the scanner stands outside quotes, and
nothing in an item ends it or begins a comment (`IsCalm`).
-/

namespace Coprocessor.Script

/-! ## What is said -/

/-- Whether a quote is open behind some bytes : there is an odd number of quotes in them. -/
abbrev HasOpenQuote (s : Bytes) : Prop :=
  s.count 0x22 % 2 = 1

/-- A name : it begins with a letter or an underscore and goes on with these and digits. -/
structure IsName (w : Bytes) : Prop where
  /-- The first byte. -/
  first : w.head?.any Ascii.isNameStart = true
  /-- Every byte. -/
  bytes : ∀ b ∈ w, Ascii.isNameByte b = true

instance (w : Bytes) : Decidable (IsName w) :=
  letI := List.decidableBAll (Ascii.isNameByte · = true) w
  decidable_of_iff (_ ∧ _) ⟨fun h => ⟨h.1, h.2⟩, fun h => ⟨h.first, h.bytes⟩⟩

/-- A text that can be a statement. -/
structure IsStatementText (s : Bytes) : Prop where
  /-- It is not empty. -/
  ne_nil : s ≠ []
  /-- It has no blank at its front. -/
  front : s.head?.any Ascii.isBlank = false
  /-- It has no blank at its end. -/
  back : s.getLast?.any Ascii.isBlank = false
  /-- It stands in one line. -/
  inLine : ∀ b ∈ s, IsInLine b
  /-- Its quotes are closed. -/
  closed : ¬HasOpenQuote s
  /-- Semicolons are quoted. -/
  semicolon : ∀ n < s.length, s[n]? = some 0x3B → HasOpenQuote (s.take n)
  /-- Number signs are quoted. -/
  hash : ∀ n < s.length, s[n]? = some 0x23 → HasOpenQuote (s.take n)
  /-- Two slashes in a row are quoted. -/
  slashes : ∀ n < s.length, s[n]? = some 0x2F → s[n + 1]? = some 0x2F → HasOpenQuote (s.take n)
  /-- It does not begin with a label. -/
  unlabelled : ∀ n < s.length, s[n]? = some 0x3A → ¬IsName (s.take n)

instance (s : Bytes) : Decidable (IsStatementText s) :=
  letI := List.decidableBAll IsInLine s
  decidable_of_iff (_ ∧ _ ∧ _ ∧ _ ∧ _ ∧ _ ∧ _ ∧ _ ∧ _)
    ⟨fun ⟨h₁, h₂, h₃, h₄, h₅, h₆, h₇, h₈, h₉⟩ => ⟨h₁, h₂, h₃, h₄, h₅, h₆, h₇, h₈, h₉⟩,
      fun ⟨h₁, h₂, h₃, h₄, h₅, h₆, h₇, h₈, h₉⟩ => ⟨h₁, h₂, h₃, h₄, h₅, h₆, h₇, h₈, h₉⟩⟩

/-- Labels, and then a statement or none. -/
structure Item where
  /-- The names of the labels. -/
  labels : List Bytes
  /-- The text of the statement. -/
  statement : Option Bytes
  /-- Labels have names. -/
  names : ∀ l ∈ labels, IsName l
  /-- The text can be a statement. -/
  text : ∀ s ∈ statement, IsStatementText s

/-- The pieces of an item. -/
def Item.pieces (i : Item) : List Piece :=
  i.labels.map .label ++ statements i.statement.toList

/-- The pieces of the items of lines. -/
def listing (lines : List (List Item)) : List Piece :=
  lines.flatten.flatMap Item.pieces

/-- The statements of the items of lines. -/
def saidStatements (lines : List (List Item)) : List Bytes :=
  lines.flatten.filterMap (·.statement)

/-- The labels of the items of lines. -/
def saidLabels (lines : List (List Item)) : List Bytes :=
  lines.flatten.flatMap (·.labels)

/-! ## How it is laid out -/

/-- Blanks within a line. -/
abbrev IsGap (g : Bytes) : Prop :=
  ∀ b ∈ g, Ascii.isBlank b = true ∧ b ≠ 0x0A

/-- Labels and a statement laid out as a text. -/
inductive IsTextOf : List Bytes → Option Bytes → Bytes → Prop
  | blank {g : Bytes} (hg : IsGap g) : IsTextOf [] none g
  | statement {g s g' : Bytes} (hg : IsGap g) (hg' : IsGap g') :
    IsTextOf [] (some s) (g ++ s ++ g')
  | label {g l text : Bytes} {ls : List Bytes} {s : Option Bytes} (hg : IsGap g)
    (h : IsTextOf ls s text) : IsTextOf (l :: ls) s (g ++ l ++ 0x3A :: text)

/-- An item laid out as a text. -/
def Item.IsText (i : Item) (text : Bytes) : Prop :=
  IsTextOf i.labels i.statement text

/-- A comment : it begins with a number sign or with two slashes and goes on to the end of the
line. -/
structure IsComment (c : Bytes) : Prop where
  /-- The first bytes. -/
  opens : c.head? = some 0x23 ∨ c.take 2 = [0x2F, 0x2F]
  /-- It stands in one line. -/
  inLine : ∀ b ∈ c, IsInLine b

/-- A line with items, joined by semicolons, and a comment behind a blank if there is one. Before
a comment that is all there is in the line no blank is needed. -/
inductive IsLineOf (is : List Item) : Bytes → Prop
  | bare {texts : List Bytes} {g : Bytes} (ht : List.Forall₂ Item.IsText is texts)
    (hg : IsGap g) : IsLineOf is (List.intercalate [0x3B] texts ++ g)
  | commented {texts : List Bytes} {g c : Bytes} (ht : List.Forall₂ Item.IsText is texts)
    (hg : IsGap g) (hb : is = [] ∨ g ≠ []) (hc : IsComment c) :
    IsLineOf is (List.intercalate [0x3B] texts ++ g ++ c)

/-- Lines with items, each ended by a line feed or by a carriage return and a line feed; the last
one need not end. A NUL may follow, and anything behind it. -/
inductive IsScriptOf : List (List Item) → Bytes → Prop
  | nothing : IsScriptOf [] []
  | ended (rest : Bytes) : IsScriptOf [] (0 :: rest)
  | last {is : List Item} {l : Bytes} (hl : IsLineOf is l) : IsScriptOf [is] l
  | lastEnded {is : List Item} {l : Bytes} (hl : IsLineOf is l) (rest : Bytes) :
    IsScriptOf [is] (l ++ 0 :: rest)
  | feed {is : List Item} {l rest : Bytes} {iss : List (List Item)} (hl : IsLineOf is l)
    (h : IsScriptOf iss rest) : IsScriptOf (is :: iss) (l ++ 0x0A :: rest)
  | returnFeed {is : List Item} {l rest : Bytes} {iss : List (List Item)} (hl : IsLineOf is l)
    (h : IsScriptOf iss rest) : IsScriptOf (is :: iss) (l ++ 0x0D :: 0x0A :: rest)

/-! ## Scanning an item -/

/-- The scanner passes bytes without an end of an item or the beginning of a comment, when some
bytes follow. -/
def IsCalm : Bool → Bytes → Bytes → Prop
  | _, [], _ => True
  | quoted, b :: s, rest =>
    (b = 0x22 ∨ quoted = true ∨ b ≠ 0x3B ∧ beginsComment b (s ++ rest) = false) ∧
      IsCalm (togglesQuote quoted b) s rest

section

variable {quoted : Bool} {s t rest : Bytes}

theorem IsCalm.itemsFrom (h : IsCalm quoted s rest) (start : Nat) (item : Bytes) :
    itemsFrom quoted start item (s ++ rest) =
      itemsFrom (quotedAfter quoted s) start (s.reverse ++ item) rest := by
  induction s generalizing quoted item with
  | nil => rfl
  | cons b s ih =>
    obtain ⟨hb, hs⟩ := h
    have hnext := ih hs (b :: item)
    have hopen : quotedAfter quoted (b :: s) = quotedAfter (togglesQuote quoted b) s := rfl
    rw [List.cons_append, Script.itemsFrom, List.reverse_cons, List.append_assoc,
      List.singleton_append, hopen, ← hnext, togglesQuote]
    by_cases hq : b = 0x22
    · rw [if_pos hq, if_pos hq]
    · rw [if_neg hq, if_neg hq]
      rcases hb with hb | rfl | ⟨hend, hcomment⟩
      · exact absurd hb hq
      · rw [if_pos rfl]
      · rw [hcomment, if_neg Bool.false_ne_true, if_neg hend, ite_self]

theorem IsCalm.append (hs : IsCalm quoted s (t ++ rest))
    (ht : IsCalm (quotedAfter quoted s) t rest) : IsCalm quoted (s ++ t) rest := by
  induction s generalizing quoted with
  | nil => exact ht
  | cons b s ih =>
    have hb := hs.1
    rw [← List.append_assoc] at hb
    exact ⟨hb, ih hs.2 ht⟩

theorem isCalm_of_plain (hs : ∀ b ∈ s, IsPlain b) (quoted : Bool) (rest : Bytes) :
    IsCalm quoted s rest := by
  induction s generalizing quoted with
  | nil => trivial
  | cons b s ih =>
    obtain ⟨-, hhash, hslash, hend⟩ := hs b List.mem_cons_self
    exact ⟨.inr (.inr ⟨hend, by simp [beginsComment, hhash, hslash]⟩),
      ih (fun b hb => hs b (List.mem_cons_of_mem _ hb)) _⟩

/-- Bytes are calm if semicolons and beginnings of comments are quoted. -/
theorem isCalm_of_quoted
    (hend : ∀ n < s.length, s[n]? = some 0x3B → quotedAfter quoted (s.take n) = true)
    (hcomment : ∀ n < s.length, ∀ b, s[n]? = some b →
      beginsComment b (s.drop (n + 1) ++ rest) = true → quotedAfter quoted (s.take n) = true) :
    IsCalm quoted s rest := by
  induction s generalizing quoted with
  | nil => trivial
  | cons b s ih =>
    refine ⟨?_, ih (fun n hn => ?_) fun n hn => ?_⟩
    · have hpos : 0 < (b :: s).length := Nat.succ_pos _
      have hend := hend 0 hpos
      have hcomment := hcomment 0 hpos b rfl
      cases quoted with
      | true => exact .inr (.inl rfl)
      | false =>
        refine .inr (.inr ⟨fun hb => ?_, Bool.eq_false_iff.mpr fun hb => ?_⟩)
        · exact Bool.false_ne_true (hend (congrArg some hb))
        · exact Bool.false_ne_true (hcomment hb)
    · exact hend (n + 1) (Nat.succ_lt_succ hn)
    · exact hcomment (n + 1) (Nat.succ_lt_succ hn)

/-- A quote is open behind bytes if it was before and there is an even number of quotes in them,
or if it was not and there is an odd number. -/
theorem quotedAfter_eq (quoted : Bool) (s : Bytes) :
    quotedAfter quoted s = (quoted ^^ decide (HasOpenQuote s)) := by
  induction s generalizing quoted with
  | nil => simp [quotedAfter, HasOpenQuote]
  | cons b s ih =>
    have hopen : quotedAfter quoted (b :: s) = quotedAfter (togglesQuote quoted b) s := rfl
    rw [hopen, ih, togglesQuote]
    by_cases hq : b = 0x22
    · have hodd : HasOpenQuote (b :: s) ↔ ¬HasOpenQuote s := by
        rw [HasOpenQuote, HasOpenQuote, hq, List.count_cons_self]
        omega
      rw [if_pos hq, decide_eq_decide.mpr hodd, decide_not, Bool.not_xor, Bool.xor_not]
    · have hsame : HasOpenQuote (b :: s) ↔ HasOpenQuote s := by
        rw [HasOpenQuote, HasOpenQuote, List.count_cons_of_ne hq]
      rw [if_neg hq, decide_eq_decide.mpr hsame]

theorem quotedAfter_eq_true_iff : quotedAfter false s = true ↔ HasOpenQuote s := by
  rw [quotedAfter_eq, Bool.false_xor, decide_eq_true_iff]

/-- A statement is calm unless its last byte is the first slash of a comment. -/
theorem IsStatementText.calm (h : IsStatementText s) (hr : rest.head? ≠ some 0x2F) :
    IsCalm false s rest := by
  refine isCalm_of_quoted (fun n hn hb => ?_) fun n hn b hb hc => ?_
  · exact quotedAfter_eq_true_iff.mpr (h.semicolon n hn hb)
  · rw [quotedAfter_eq_true_iff]
    simp only [beginsComment, Bool.or_eq_true, Bool.and_eq_true, beq_iff_eq] at hc
    rcases hc with rfl | ⟨rfl, hslash⟩
    · exact h.hash n hn hb
    · -- The second slash is in the statement too, since what follows begins with another byte.
      refine h.slashes n hn hb ?_
      rw [List.head?_append] at hslash
      rw [← List.head?_drop]
      cases hd : (s.drop (n + 1)).head? with
      | none =>
        rw [hd, Option.none_or] at hslash
        exact absurd hslash hr
      | some c => rwa [hd] at hslash

theorem IsStatementText.quotedAfter (h : IsStatementText s) : quotedAfter false s = false :=
  Bool.eq_false_iff.mpr (mt quotedAfter_eq_true_iff.mp h.closed)

end

/-! ## Items -/

section

variable {g g' s l text rest : Bytes} {ls : List Bytes} {so : Option Bytes}

theorem IsGap.append (h : IsGap g) (h' : IsGap g') : IsGap (g ++ g') := fun b hb =>
  (List.mem_append.mp hb).elim (h b) (h' b)

theorem ne_of_isBlank {b c : UInt8} (hb : Ascii.isBlank b = true) (hc : Ascii.isBlank c = false) :
    b ≠ c := by
  rintro rfl
  exact Bool.eq_false_iff.mp hc hb

theorem IsGap.plain (h : IsGap g) : ∀ b ∈ g, IsPlain b := fun b hb =>
  have hblank := (h b hb).1
  ⟨ne_of_isBlank hblank rfl, ne_of_isBlank hblank rfl, ne_of_isBlank hblank rfl,
    ne_of_isBlank hblank rfl⟩

theorem IsGap.inLine (h : IsGap g) : ∀ b ∈ g, IsInLine b := fun b hb =>
  ⟨(h b hb).2, ne_of_isBlank (h b hb).1 rfl⟩

theorem ne_of_isNameByte {b c : UInt8} (hb : Ascii.isNameByte b = true)
    (hc : Ascii.isNameByte c = false) : b ≠ c := by
  rintro rfl
  exact Bool.eq_false_iff.mp hc hb

/-- A name with a colon behind it. -/
theorem IsName.plain (h : IsName l) : ∀ b ∈ l ++ [0x3A], IsPlain b := by
  intro b hb
  rcases List.mem_append.mp hb with hb | hb
  · have hname := h.bytes b hb
    exact ⟨ne_of_isNameByte hname rfl, ne_of_isNameByte hname rfl, ne_of_isNameByte hname rfl,
      ne_of_isNameByte hname rfl⟩
  · rw [List.mem_singleton.mp hb]
    decide

theorem IsName.inLine (h : IsName l) : ∀ b ∈ l, IsInLine b := fun b hb =>
  ⟨ne_of_isNameByte (h.bytes b hb) rfl, ne_of_isNameByte (h.bytes b hb) rfl⟩

theorem quotedAfter_of_plain (hs : ∀ b ∈ s, IsPlain b) (quoted : Bool) :
    quotedAfter quoted s = quoted :=
  quotedAfter_of_not_mem fun hq => (hs _ hq).1 rfl

/-- The layout of labels and a statement that are those of an item. -/
structure IsSaid (ls : List Bytes) (so : Option Bytes) : Prop where
  /-- Labels have names. -/
  names : ∀ l ∈ ls, IsName l
  /-- The text can be a statement. -/
  text : ∀ s ∈ so, IsStatementText s

theorem Item.isSaid (i : Item) : IsSaid i.labels i.statement :=
  ⟨i.names, i.text⟩

theorem IsSaid.tail (h : IsSaid (l :: ls) so) : IsSaid ls so :=
  ⟨fun k hk => h.names k (List.mem_cons_of_mem _ hk), h.text⟩

/-- Nothing in the text of an item ends it, and behind it no quote is open. -/
theorem IsTextOf.calm (h : IsTextOf ls so text) (hi : IsSaid ls so)
    (hr : rest.head? ≠ some 0x2F) :
    IsCalm false text rest ∧ quotedAfter false text = false := by
  induction h with
  | blank hg => exact ⟨isCalm_of_plain hg.plain _ _, quotedAfter_of_plain hg.plain _⟩
  | @statement g s g' hg hg' =>
    have hs := hi.text s rfl
    have hnext : (g' ++ rest).head? ≠ some 0x2F := by
      cases g' with
      | nil => exact hr
      | cons b g' =>
        intro hb
        exact (hg'.plain b List.mem_cons_self).2.2.1 (Option.some.inj hb)
    have hbefore : quotedAfter false (g ++ s) = false := by
      rw [quotedAfter_append, quotedAfter_of_plain hg.plain, hs.quotedAfter]
    refine ⟨.append (.append (isCalm_of_plain hg.plain _ _) ?_) (isCalm_of_plain hg'.plain _ _), ?_⟩
    · rw [quotedAfter_of_plain hg.plain]
      exact hs.calm hnext
    · rw [quotedAfter_append, hbefore, quotedAfter_of_plain hg'.plain]
  | @label g l text ls so hg _ ih =>
    obtain ⟨hcalm, hafter⟩ := ih hi.tail
    have hfront : ∀ b ∈ g ++ (l ++ [0x3A]), IsPlain b := fun b hb =>
      (List.mem_append.mp hb).elim (hg.plain b) ((hi.names l List.mem_cons_self).plain b)
    have htext : g ++ l ++ 0x3A :: text = (g ++ (l ++ [0x3A])) ++ text := by simp
    rw [htext, quotedAfter_append, quotedAfter_of_plain hfront]
    refine ⟨.append (isCalm_of_plain hfront _ _) ?_, hafter⟩
    rw [quotedAfter_of_plain hfront]
    exact hcalm

/-- Blanks behind the text of an item belong to the layout. -/
theorem IsTextOf.append_gap (h : IsTextOf ls so text) (hg : IsGap g) :
    IsTextOf ls so (text ++ g) := by
  induction h with
  | blank hg' => exact .blank (hg'.append hg)
  | statement hg' hg'' =>
    rw [List.append_assoc]
    exact .statement hg' (hg''.append hg)
  | label hg' _ ih =>
    rw [List.append_assoc, List.cons_append]
    exact .label hg' ih

theorem IsTextOf.inLine (h : IsTextOf ls so text) (hi : IsSaid ls so) :
    ∀ b ∈ text, IsInLine b := by
  induction h with
  | blank hg => exact hg.inLine
  | @statement g s g' hg hg' =>
    intro b hb
    rcases List.mem_append.mp hb with hb | hb
    · exact (List.mem_append.mp hb).elim (hg.inLine b) ((hi.text s rfl).inLine b)
    · exact hg'.inLine b hb
  | @label g l text ls so hg _ ih =>
    intro b hb
    rcases List.mem_append.mp hb with hb | hb
    · exact (List.mem_append.mp hb).elim (hg.inLine b) ((hi.names l List.mem_cons_self).inLine b)
    · rcases List.mem_cons.mp hb with rfl | hb
      · decide
      · exact ih hi.tail b hb

theorem itemPieces_gap (hg : IsGap g) (text : Bytes) :
    itemPieces (g ++ text) = itemPieces text := by
  induction g with
  | nil => rfl
  | cons b g ih =>
    rw [List.cons_append, itemPieces_blank (hg b List.mem_cons_self).1,
      ih fun b hb => hg b (List.mem_cons_of_mem _ hb)]

/-- Blanks behind an item do not count. -/
theorem itemPieces_append_gap (text : Bytes) (hg : IsGap g) :
    itemPieces (text ++ g) = itemPieces text := by
  have hback : Ascii.trimBack (text ++ g) = Ascii.trimBack text := by
    have hall : ∀ b ∈ g.reverse, Ascii.isBlank b = true := fun b hb =>
      (hg b (List.mem_reverse.mp hb)).1
    rw [Ascii.trimBack, List.reverse_append, List.dropWhile_append_of_pos hall, Ascii.trimBack]
  have htrim : Ascii.trim (text ++ g) = Ascii.trim text := by
    rw [← trim_trimBack, hback, trim_trimBack]
  have hplaced := unplaced_piecesOfTrimmed (Stretch.trim ⟨0, text⟩)
    (Stretch.trim ⟨0, text ++ g⟩).start
  rw [itemPieces, itemPieces, piecesOfItem, piecesOfItem, ← hplaced]
  simp only [Stretch.trim, htrim]

theorem IsStatementText.trim (h : IsStatementText s) : Ascii.trim s = s := by
  have ends : ∀ o : Option UInt8, o.any Ascii.isBlank = false →
      ∀ b ∈ o, Ascii.isBlank b = false := by
    rintro _ ho b rfl
    exact ho
  exact Numeral.trim_of_ends (ends _ h.front) (ends _ h.back)

theorem IsStatementText.labelName? (h : IsStatementText s) : labelName? s = none := by
  refine Option.eq_none_iff_forall_ne_some.mpr fun name hname => ?_
  obtain ⟨rest, htext, hbytes⟩ := exists_of_labelName? hname
  have hlt := length_lt_of_labelName? hname
  have hcolon : s[name.length]? = some 0x3A := by
    rw [htext]
    simp
  have hfront : s.take name.length = name := by
    rw [htext, List.take_left]
  refine h.unlabelled name.length hlt hcolon ?_
  rw [hfront]
  refine ⟨?_, hbytes⟩
  rw [htext, labelName?_append hbytes rfl] at hname
  cases hfirst : name.head? with
  | none =>
    rw [hfirst] at hname
    cases hname
  | some first =>
    rw [hfirst, Option.bind_some] at hname
    cases hs : Ascii.isNameStart first with
    | true => simpa using hs
    | false => simp [hs] at hname

/-- The text of an item says what the item says. -/
theorem IsTextOf.itemPieces (h : IsTextOf ls so text) (hi : IsSaid ls so) :
    itemPieces text = ls.map .label ++ statements so.toList := by
  induction h with
  | @blank g hg =>
    have hpieces := itemPieces_gap hg []
    rw [List.append_nil] at hpieces
    rw [hpieces, itemPieces_nil]
    rfl
  | @statement g s g' hg hg' =>
    have hs := hi.text s rfl
    rw [itemPieces_append_gap _ hg', itemPieces_gap hg,
      itemPieces_statement hs.trim hs.ne_nil hs.labelName?]
    rfl
  | @label g l text ls so hg _ ih =>
    have hl := hi.names l List.mem_cons_self
    obtain ⟨first, name, rfl⟩ : ∃ first name, l = first :: name := by
      cases l with
      | nil => cases hl.first
      | cons first name => exact ⟨first, name, rfl⟩
    rw [List.append_assoc, itemPieces_gap hg, itemPieces_label hl.first hl.bytes, ih hi.tail]
    rfl

end

/-! ## Lines -/

section

variable {is : List Item} {texts : List Bytes} {g c l : Bytes}

theorem IsComment.beginsComment (h : IsComment c) :
    ∃ b rest, c = b :: rest ∧ b ≠ 0x22 ∧ beginsComment b rest = true := by
  rcases h.opens with hc | hc
  · obtain ⟨rest, rfl⟩ := List.head?_eq_some_iff.mp hc
    exact ⟨0x23, rest, rfl, by decide, rfl⟩
  · obtain ⟨rest, rfl⟩ : ∃ rest, c = 0x2F :: 0x2F :: rest := by
      have htake := List.take_append_drop 2 c
      rw [hc] at htake
      exact ⟨c.drop 2, htake.symm⟩
    exact ⟨0x2F, 0x2F :: rest, rfl, by decide, rfl⟩

/-- What stands behind the items of a line : blanks, and a comment if there is one. -/
def IsTail (g c : Bytes) : Prop :=
  IsGap g ∧ (c = [] ∨ IsComment c)

/-- Behind the items the last item takes in the blanks. -/
theorem IsTail.itemsFrom (h : IsTail g c) (start : Nat) (item : Bytes) :
    itemsFrom false start item (g ++ c) = [⟨start, item.reverse ++ g⟩] := by
  rw [(isCalm_of_plain h.1.plain false c).itemsFrom, quotedAfter_of_plain h.1.plain]
  rcases h.2 with rfl | hc
  · simp [Script.itemsFrom]
  · obtain ⟨b, rest, rfl, hb, hbegins⟩ := hc.beginsComment
    rw [Script.itemsFrom, if_neg hb, if_neg Bool.false_ne_true, if_pos hbegins]
    simp

/-- The items of a line that is laid out are the texts of its items, the last one with the
blanks behind it. -/
theorem flatMap_itemPieces_layout (ht : List.Forall₂ Item.IsText is texts) (h : IsTail g c)
    (hb : is = [] ∨ (g ++ c).head? ≠ some 0x2F) (start : Nat) :
    ((itemsFrom false start [] (List.intercalate [0x3B] texts ++ (g ++ c))).map
      (·.text)).flatMap itemPieces = is.flatMap Item.pieces := by
  induction ht generalizing start with
  | nil =>
    have hgap := itemPieces_gap h.1 []
    rw [List.append_nil, itemPieces_nil] at hgap
    have hitems := h.itemsFrom start []
    rw [List.reverse_nil, List.nil_append] at hitems
    rw [List.intercalate_nil, List.nil_append, hitems]
    simp [hgap]
  | @cons i text is texts hi hts ih =>
    have hslash := hb.resolve_left (List.cons_ne_nil _ _)
    -- No semicolon stands behind the last item, so the blanks of the line are part of its text.
    cases texts with
    | nil =>
      cases hts
      obtain ⟨hcalm, hafter⟩ := hi.calm i.isSaid hslash
      rw [List.intercalate_singleton, hcalm.itemsFrom, hafter, h.itemsFrom]
      simpa [Item.pieces] using (hi.append_gap h.1).itemPieces i.isSaid
    | cons text' texts =>
      have hsemicolon : (0x3B :: (List.intercalate [0x3B] (text' :: texts) ++ (g ++ c))).head? ≠
          some 0x2F := by
        intro hs
        cases hs
      obtain ⟨hcalm, hafter⟩ := hi.calm i.isSaid hsemicolon
      have hrest := ih (.inr hslash) (start + (text.reverse ++ []).length + 1)
      rw [List.intercalate_cons_cons, List.append_assoc, List.append_assoc, List.singleton_append,
        hcalm.itemsFrom, hafter, itemsFrom, if_neg (by decide), if_neg Bool.false_ne_true,
        if_neg (by simp [beginsComment]), if_pos rfl, List.map_cons, List.flatMap_cons, hrest,
        List.flatMap_cons]
      congr 1
      simpa [Item.pieces] using hi.itemPieces i.isSaid

/-- A line that is laid out says what its items say. -/
theorem IsLineOf.linePieces (h : IsLineOf is l) : linePieces l = is.flatMap Item.pieces := by
  rw [Script.linePieces, unplaced_piecesOfLine, items]
  cases h with
  | @bare texts g ht hg =>
    have hb : (g ++ []).head? ≠ some 0x2F := by
      rw [List.append_nil]
      intro hs
      exact (hg.plain _ (List.mem_of_mem_head? hs)).2.2.1 rfl
    have hpieces := flatMap_itemPieces_layout ht (c := []) ⟨hg, .inl rfl⟩ (.inr hb) 0
    rwa [List.append_nil] at hpieces
  | @commented texts g c ht hg hb hc =>
    rw [List.append_assoc]
    refine flatMap_itemPieces_layout ht ⟨hg, .inr hc⟩ (hb.imp_right fun hne => ?_) 0
    obtain ⟨b, g, rfl⟩ := List.exists_cons_of_ne_nil hne
    intro hs
    exact (hg.plain b List.mem_cons_self).2.2.1 (Option.some.inj hs)

theorem inLine_of_mem_texts (ht : List.Forall₂ Item.IsText is texts) :
    ∀ text ∈ texts, ∀ b ∈ text, IsInLine b := by
  induction ht with
  | nil => exact nofun
  | @cons i text is texts hi _ ih => exact List.forall_mem_cons.mpr ⟨hi.inLine i.isSaid, ih⟩

theorem IsLineOf.inLine (h : IsLineOf is l) : ∀ b ∈ l, IsInLine b := by
  have joined : ∀ {texts : List Bytes}, List.Forall₂ Item.IsText is texts →
      ∀ b ∈ List.intercalate [0x3B] texts, IsInLine b := by
    intro texts ht b hb
    rcases mem_intercalate hb with hb | ⟨text, htext, hb⟩
    · rw [List.mem_singleton.mp hb]
      decide
    · exact inLine_of_mem_texts ht text htext b hb
  intro b hb
  cases h with
  | bare ht hg => exact (List.mem_append.mp hb).elim (joined ht b) (hg.inLine b)
  | commented ht hg _ hc =>
    rcases List.mem_append.mp hb with hb | hb
    · exact (List.mem_append.mp hb).elim (joined ht b) (hg.inLine b)
    · exact hc.inLine b hb

/-- A carriage return behind a line belongs to the layout. -/
theorem IsLineOf.append_return (h : IsLineOf is l) : IsLineOf is (l ++ [0x0D]) := by
  have hreturn : IsGap [0x0D] := by
    intro b hb
    rw [List.mem_singleton.mp hb]
    decide
  cases h with
  | bare ht hg =>
    rw [List.append_assoc]
    exact .bare ht (hg.append hreturn)
  | @commented texts g c ht hg hb hc =>
    rw [List.append_assoc]
    refine .commented ht hg hb ⟨?_, fun b hb => ?_⟩
    · obtain ⟨b, rest, rfl, -⟩ := hc.beginsComment
      refine hc.opens.imp (fun hs => hs) fun hs => ?_
      cases rest with
      | nil => cases hs
      | cons b' rest => exact hs
    · exact (List.mem_append.mp hb).elim (hc.inLine b) (hreturn.inLine b)

end

/-! ## Scripts -/

variable {iss : List (List Item)} {source : Bytes}

theorem linesFrom_end {l : Bytes} (hl : ∀ b ∈ l, IsInLine b) (start : Nat) (line : Bytes) :
    linesFrom start line l = [⟨start, line.reverse ++ l⟩] := by
  induction l generalizing line with
  | nil => simp [linesFrom]
  | cons b l ih =>
    rw [linesFrom, if_neg (hl b List.mem_cons_self).1,
      ih fun b hb => hl b (List.mem_cons_of_mem _ hb)]
    simp

/-- The part before the first NUL of a line and something else. -/
theorem takeWhile_line {l : Bytes} (hl : ∀ b ∈ l, IsInLine b) (rest : Bytes) :
    (l ++ rest).takeWhile (· != 0) = l ++ rest.takeWhile (· != 0) :=
  List.takeWhile_append_of_pos fun b hb => bne_iff_ne.mpr (hl b hb).2

/-- The lines of a script that is laid out say what its items say, wherever the script begins. -/
theorem IsScriptOf.flatMap_linePieces (h : IsScriptOf iss source) (start : Nat) :
    ((linesFrom start [] (source.takeWhile (· != 0))).map (·.text)).flatMap linePieces =
      listing iss := by
  have oneLine : ∀ {is : List Item} {l : Bytes} (start : Nat), IsLineOf is l →
      ((linesFrom start [] l).map (·.text)).flatMap linePieces = listing [is] := by
    intro is l start hl
    rw [linesFrom_end hl.inLine]
    simpa [listing] using hl.linePieces
  have further : ∀ {is : List Item} {iss : List (List Item)} {l rest : Bytes} (start : Nat),
      IsLineOf is l →
      (∀ start, ((linesFrom start [] rest).map (·.text)).flatMap linePieces = listing iss) →
      ((linesFrom start [] (l ++ 0x0A :: rest)).map (·.text)).flatMap linePieces =
        listing (is :: iss) := by
    intro is iss l rest start hl hrest
    obtain ⟨start', hline⟩ := linesFrom_line hl.inLine start [] rest
    rw [hline, List.map_cons, List.flatMap_cons, hrest]
    simpa [listing] using hl.linePieces
  induction h generalizing start with
  | nothing | ended rest => simp [linesFrom, listing]
  | last hl =>
    have htake := takeWhile_line hl.inLine []
    rw [List.append_nil, List.takeWhile_nil, List.append_nil] at htake
    rw [htake]
    exact oneLine start hl
  | lastEnded hl rest =>
    rw [takeWhile_line hl.inLine, List.takeWhile_cons_of_neg (by decide), List.append_nil]
    exact oneLine start hl
  | feed hl _ ih =>
    rw [takeWhile_line hl.inLine, List.takeWhile_cons_of_pos (by decide)]
    exact further start hl ih
  | @returnFeed is l rest iss hl _ ih =>
    have hl := hl.append_return
    have hsplit : l ++ 0x0D :: 0x0A :: rest = (l ++ [0x0D]) ++ 0x0A :: rest := by simp
    rw [hsplit, takeWhile_line hl.inLine, List.takeWhile_cons_of_pos (by decide)]
    exact further start hl ih

/-- A script that is laid out has the pieces of its items. -/
theorem IsScriptOf.pieces (h : IsScriptOf iss source) :
    (pieces source).map Piece.unplaced = listing iss := by
  rw [Script.pieces, unplaced_lines]
  exact h.flatMap_linePieces 0

end Coprocessor.Script
