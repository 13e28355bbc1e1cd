/-!
# Bytes and ASCII words

Everything that crosses the link, and every script, is a string of bytes. The
words of the script language are compared up to the case of ASCII letters, and
blanks are the five ASCII ones : space, tab, line feed, form feed and carriage
return. No other byte has a case or is a blank, whatever text it is part of.
-/

namespace Coprocessor

/-- A string of bytes. -/
abbrev Bytes := List UInt8

/-- The UTF-8 bytes of a text. -/
def Bytes.ofText (s : String) : Bytes :=
  s.toUTF8.data.toList

/-- The first `n` bytes and what follows them, if there are that many. -/
def Bytes.splitAt? (n : Nat) (s : Bytes) : Option (Bytes × Bytes) :=
  let front := s.take n
  if front.length = n then some (front, s.drop n) else none

theorem Bytes.splitAt?_append (a b : Bytes) : Bytes.splitAt? a.length (a ++ b) = some (a, b) := by
  simp [Bytes.splitAt?]

theorem Bytes.splitAt?_eq_none_iff {n : Nat} {s : Bytes} :
    Bytes.splitAt? n s = none ↔ s.length < n := by
  simp only [Bytes.splitAt?, List.length_take]
  split <;> simp <;> omega

/-- The pieces of at most `n + 1` bytes a string is cut into, in order; no piece
is empty. -/
def Bytes.pieces (n : Nat) (s : Bytes) : List Bytes :=
  if h : s = [] then []
  else s.take (n + 1) :: pieces n (s.drop (n + 1))
termination_by s.length
decreasing_by
  have : 0 < s.length := List.length_pos_iff.mpr h
  simp only [List.length_drop]
  omega

theorem Bytes.flatten_pieces (n : Nat) (s : Bytes) : (s.pieces n).flatten = s := by
  fun_induction Bytes.pieces n s with
  | case1 => rfl
  | case2 s h ih => rw [List.flatten_cons, ih, List.take_append_drop]

theorem Bytes.ne_nil_of_mem_pieces {n : Nat} {s piece : Bytes} (h : piece ∈ s.pieces n) :
    piece ≠ [] := by
  fun_induction Bytes.pieces n s with
  | case1 => cases h
  | case2 s hs ih =>
    rcases List.mem_cons.mp h with rfl | h
    · simp [List.take_eq_nil_iff, hs]
    · exact ih h

theorem Bytes.length_le_of_mem_pieces {n : Nat} {s piece : Bytes} (h : piece ∈ s.pieces n) :
    piece.length ≤ s.length := by
  have hle := (List.sublist_flatten_of_mem h).length_le
  rwa [flatten_pieces] at hle

namespace Ascii

/-! ## Classes -/

/-- Space, tab, line feed, form feed or carriage return. -/
def isBlank (b : UInt8) : Bool :=
  b == 0x20 || b == 0x09 || b == 0x0A || b == 0x0C || b == 0x0D

/-- A decimal digit. -/
def isDigit (b : UInt8) : Bool :=
  0x30 ≤ b && b ≤ 0x39

/-- A capital letter. -/
def isUpper (b : UInt8) : Bool :=
  0x41 ≤ b && b ≤ 0x5A

/-- A letter of either case. -/
def isLetter (b : UInt8) : Bool :=
  isUpper b || (0x61 ≤ b && b ≤ 0x7A)

/-- A byte a name may begin with : a letter or an underscore. -/
def isNameStart (b : UInt8) : Bool :=
  isLetter b || b == 0x5F

/-- A byte a name may go on with : a letter, a digit or an underscore. -/
def isNameByte (b : UInt8) : Bool :=
  isLetter b || isDigit b || b == 0x5F

/-! ## Case -/

/-- The small letter of a capital one; any other byte is kept. -/
def fold (b : UInt8) : UInt8 :=
  if isUpper b then b + 0x20 else b

/-- Equality of two words up to the case of their letters. -/
def sameWord (a b : Bytes) : Bool :=
  a.map fold == b.map fold

/-- Whether `word` is the given spelling, up to case. -/
def isWord (spelling : String) (word : Bytes) : Bool :=
  sameWord (Bytes.ofText spelling) word

/-! ## Cutting -/

/-- The text without the blanks at its front. -/
def trimFront (s : Bytes) : Bytes :=
  s.dropWhile isBlank

/-- The text without the blanks at its end. -/
def trimBack (s : Bytes) : Bytes :=
  (s.reverse.dropWhile isBlank).reverse

/-- The text without the blanks at both ends. -/
def trim (s : Bytes) : Bytes :=
  trimBack (trimFront s)

/-- The stretches of `s` between the bytes that `sep` holds of, empty ones left out. -/
def tokens (sep : UInt8 → Bool) (s : Bytes) : List Bytes :=
  (s.splitOnP sep).filter fun t => !t.isEmpty

end Ascii

end Coprocessor
