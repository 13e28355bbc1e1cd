import Coprocessor.Bytes

/-!
# The mailbox

A text of limited length that scripts append to and the host reads. It is held in
a buffer with a NUL after it, so it is always shorter than the buffer. What is
appended is cut at its first NUL and then to the room that is left. Bytes that a
longer text left behind the NUL stay in the buffer until they are overwritten.
-/

namespace Coprocessor

/-- A text in a buffer of `capacity` bytes. -/
structure Mailbox where
  /-- The size of the buffer. -/
  capacity : Nat
  /-- The text, the newest byte first. -/
  held : Bytes
  /-- The bytes of the buffer behind the text, up to the last that was written. -/
  behind : Bytes
  /-- There is room for the NUL. -/
  held_lt : held.length < capacity
  /-- The buffer holds everything. -/
  behind_le : held.length + behind.length ≤ capacity

namespace Mailbox

/-- An empty mailbox with a buffer of the given size, at least one byte. -/
def empty (capacity : Nat) : Mailbox where
  capacity := max capacity 1
  held := []
  behind := []
  held_lt := Nat.lt_of_lt_of_le Nat.one_pos (Nat.le_max_right capacity 1)
  behind_le := Nat.zero_le _

/-- The text. -/
def text (m : Mailbox) : Bytes :=
  m.held.reverse

/-- The length of the text. -/
def length (m : Mailbox) : Nat :=
  m.held.length

/-- The whole buffer : the text, a NUL, what was left there, and zeros. -/
def buffer (m : Mailbox) : Bytes :=
  m.text ++ m.behind ++ List.replicate (m.capacity - m.held.length - m.behind.length) 0

/-- The part of a text before its first NUL. -/
def upToNul (s : Bytes) : Bytes :=
  s.takeWhile (· != 0)

/-- The part of `s` that is stored when it is appended. -/
def stored (m : Mailbox) (s : Bytes) : Bytes :=
  (upToNul s).take (m.capacity - 1 - m.held.length)

/-- The mailbox with `s` appended. -/
def append (m : Mailbox) (s : Bytes) : Mailbox where
  capacity := m.capacity
  held := (m.stored s).reverse ++ m.held
  behind := 0 :: m.behind.drop ((m.stored s).length + 1)
  held_lt := by
    have := m.held_lt
    simp only [stored, List.length_append, List.length_reverse, List.length_take]
    omega
  behind_le := by
    have := m.held_lt
    have := m.behind_le
    simp only [stored, List.length_append, List.length_reverse, List.length_take,
      List.length_cons, List.length_drop]
    omega

/-- The mailbox without a text. -/
def clear (m : Mailbox) : Mailbox where
  capacity := m.capacity
  held := []
  behind := 0 :: (m.text ++ m.behind).drop 1
  held_lt := Nat.lt_of_le_of_lt (Nat.zero_le _) m.held_lt
  behind_le := by
    have := m.held_lt
    have := m.behind_le
    simp only [text, List.length_nil, List.length_cons, List.length_drop, List.length_append,
      List.length_reverse]
    omega

/-- The first `n` bytes of the text. -/
def read (m : Mailbox) (n : Nat) : Bytes :=
  m.text.take n

/-- Nothing is stored beyond the room that is left. -/
theorem text_append (m : Mailbox) (s : Bytes) :
    (m.append s).text = m.text ++ (upToNul s).take (m.capacity - 1 - m.length) := by
  simp [append, text, stored, length]

theorem text_clear (m : Mailbox) : m.clear.text = [] :=
  rfl

end Mailbox

end Coprocessor
