import Coprocessor.Bytes

/-!
# The pieces of a script

A script ends at its first NUL. Its lines end at line feeds. A line is cut into
items at semicolons, up to a comment, which begins with `#` or with `//`; inside
double quotes neither counts, and a quote that is not closed ends with its line.
An item is, blanks around them left out, any number of labels, each a name and a
colon, and then a statement unless nothing is left.

`pieces` is the labels and statements of a script in order. Every piece knows the
place in the script where it begins.
-/

namespace Coprocessor.Script

/-- A stretch of a script. -/
structure Stretch where
  /-- The number of bytes before it. -/
  start : Nat
  /-- Its bytes. -/
  text : Bytes
  deriving DecidableEq, Repr

namespace Stretch

/-- The place after the last byte. -/
def stop (s : Stretch) : Nat :=
  s.start + s.text.length

/-- The stretch without its first `n` bytes. -/
def drop (n : Nat) (s : Stretch) : Stretch :=
  ⟨s.start + n, s.text.drop n⟩

/-- The stretch without the blanks at its ends. -/
def trim (s : Stretch) : Stretch :=
  ⟨s.start + (s.text.takeWhile Ascii.isBlank).length, Ascii.trim s.text⟩

end Stretch

/-! ## Lines -/

/-- The lines of a text that goes on from `start`; `line` is the current one so far,
reversed. -/
def linesFrom (start : Nat) (line : Bytes) : Bytes → List Stretch
  | [] => [⟨start, line.reverse⟩]
  | b :: rest =>
    if b = 0x0A then ⟨start, line.reverse⟩ :: linesFrom (start + line.length + 1) [] rest
    else linesFrom start (b :: line) rest

/-- The lines of a script. -/
def lines (source : Bytes) : List Stretch :=
  linesFrom 0 [] (source.takeWhile (· != 0))

/-! ## Items -/

/-- Whether a comment begins with the byte `b` when `rest` follows it. -/
def beginsComment (b : UInt8) (rest : Bytes) : Bool :=
  b == 0x23 || (b == 0x2F && rest.head? == some 0x2F)

/-- The items of a line that goes on from `start`; `quoted` tells whether a quote is
open, and `item` is the current item so far, reversed. -/
def itemsFrom (quoted : Bool) (start : Nat) (item : Bytes) : Bytes → List Stretch
  | [] => [⟨start, item.reverse⟩]
  | b :: rest =>
    if b = 0x22 then itemsFrom (!quoted) start (b :: item) rest
    else if quoted then itemsFrom quoted start (b :: item) rest
    else if beginsComment b rest then [⟨start, item.reverse⟩]
    else if b = 0x3B then
      ⟨start, item.reverse⟩ :: itemsFrom quoted (start + item.length + 1) [] rest
    else itemsFrom quoted start (b :: item) rest

/-- The items of a line. -/
def items (line : Stretch) : List Stretch :=
  itemsFrom false line.start [] line.text

/-! ## Labels and statements -/

/-- A piece of a script. -/
inductive Piece where
  /-- A label, by its name. -/
  | label (name : Bytes)
  /-- A statement. -/
  | statement (s : Stretch)
  deriving DecidableEq, Repr

/-- The name at the front of a text that begins with a name and a colon. -/
def labelName? (text : Bytes) : Option Bytes :=
  let name := text.takeWhile Ascii.isNameByte
  match name.head?, (text.drop name.length).head? with
  | some first, some after => if Ascii.isNameStart first && after == 0x3A then some name else none
  | _, _ => none

theorem length_lt_of_labelName? {text name : Bytes} (h : labelName? text = some name) :
    name.length < text.length := by
  simp only [labelName?] at h
  split at h
  · next after hafter =>
    split at h
    · simp only [Option.some.injEq] at h
      subst h
      have hne : text.drop (text.takeWhile Ascii.isNameByte).length ≠ [] := by
        intro hnil
        rw [hnil] at hafter
        simp at hafter
      simpa [List.drop_eq_nil_iff] using hne
    · simp at h
  · simp at h

theorem length_trim_le (s : Bytes) : (Ascii.trim s).length ≤ s.length := by
  have hsub := (List.dropWhile_sublist Ascii.isBlank (l := s)).length_le
  have hrev := (List.dropWhile_sublist Ascii.isBlank
    (l := (s.dropWhile Ascii.isBlank).reverse)).length_le
  simp only [List.length_reverse] at hrev
  simp only [Ascii.trim, Ascii.trimBack, Ascii.trimFront, List.length_reverse]
  omega

/-- The pieces of an item without blanks at its ends. -/
def piecesOfTrimmed (item : Stretch) : List Piece :=
  match h : labelName? item.text with
  | some name => .label name :: piecesOfTrimmed (item.drop (name.length + 1)).trim
  | none => if item.text.isEmpty then [] else [.statement item]
termination_by item.text.length
decreasing_by
  have hlt := length_lt_of_labelName? h
  have hle := length_trim_le (item.text.drop (name.length + 1))
  simp only [List.length_drop] at hle
  simp only [Stretch.trim, Stretch.drop]
  omega

theorem piecesOfTrimmed_of_label {item : Stretch} {name : Bytes}
    (h : labelName? item.text = some name) :
    piecesOfTrimmed item = .label name :: piecesOfTrimmed (item.drop (name.length + 1)).trim := by
  rw [piecesOfTrimmed]
  split
  case h_1 name' h' =>
    obtain rfl : name' = name := Option.some.inj (h'.symm.trans h)
    rfl
  case h_2 h' => cases h'.symm.trans h

theorem piecesOfTrimmed_of_no_label {item : Stretch} (h : labelName? item.text = none) :
    piecesOfTrimmed item = if item.text.isEmpty then [] else [.statement item] := by
  rw [piecesOfTrimmed]
  split
  case h_1 h' => cases h'.symm.trans h
  case h_2 => rfl

/-- The pieces of an item. -/
def piecesOfItem (item : Stretch) : List Piece :=
  piecesOfTrimmed item.trim

/-- The pieces of a line. -/
def piecesOfLine (line : Stretch) : List Piece :=
  (items line).flatMap piecesOfItem

/-- The labels and statements of a script, in order. -/
def pieces (source : Bytes) : List Piece :=
  (lines source).flatMap piecesOfLine

end Coprocessor.Script
