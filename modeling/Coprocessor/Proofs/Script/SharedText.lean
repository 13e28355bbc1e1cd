import Coprocessor.Mailbox
import Mathlib.Data.List.DropRight
import Mathlib.Logic.Function.Basic

/-!
# A text that handles share

A mailbox is reached through handles, and each may be cloned (`Handle`). Whatever is asked through
whichever of them, the mailbox holds what was given since it was last cleared, each text up to its
first NUL, as far as there is room, with a NUL behind it (`Kept`). One call preserves that
(`Kept.call`), and so does a run of calls (`kept_foldl`).

In memory a mailbox is a buffer and a length (`Slot`), and calls read and write it by index. They
fail where an index is out of range (`Slot.call?`). On the memory of a mailbox none is, and what is
left is the memory of the mailbox after the call (`call?_slot`). So it is in a run in which handles
on several mailboxes are used in turn (`run?_memory`), and each of them sees the one text of its
mailbox (`Mailbox.handles_share_text`).
-/

namespace Coprocessor

namespace Mailbox

/-! ## The buffer -/

variable (m : Mailbox) (s : Bytes)

theorem take_text : m.text.take (m.capacity - 1) = m.text := by
  have hlt := m.held_lt
  refine List.take_of_length_le ?_
  rw [text, List.length_reverse]
  omega

theorem length_text : m.text.length = m.length :=
  List.length_reverse

/-- What the buffer holds behind the text. -/
def rest : Bytes :=
  m.behind ++ List.replicate (m.capacity - m.held.length - m.behind.length) 0

theorem buffer_eq : m.buffer = m.text ++ m.rest :=
  List.append_assoc ..

theorem length_rest : m.rest.length = m.capacity - m.length := by
  have hle := m.behind_le
  rw [rest, List.length_append, List.length_replicate, length]
  omega

theorem length_buffer : m.buffer.length = m.capacity := by
  have hlt := m.held_lt
  rw [buffer_eq, List.length_append, length_text, length_rest, length]
  omega

theorem length_append : (m.append s).length = m.length + (m.stored s).length := by
  rw [length, append, List.length_append, List.length_reverse, length, Nat.add_comm]

/-- There is room for what is stored, and for a NUL behind it. -/
theorem length_stored_lt : (m.stored s).length < m.rest.length := by
  have hlt := m.held_lt
  rw [length_rest, stored, List.length_take, length]
  omega

/-- A text and its NUL are written over what was behind the text before. -/
theorem rest_append : (m.append s).rest = 0 :: m.rest.drop ((m.stored s).length + 1) := by
  have hle := m.behind_le
  simp only [rest, append, List.length_append, List.length_reverse, List.length_cons,
    List.length_drop, List.drop_append, List.drop_replicate, List.cons_append]
  congr 3
  omega

/-- Only the first byte is written when the text is cleared. -/
theorem buffer_clear : m.clear.buffer = 0 :: m.buffer.drop 1 := by
  have hlt := m.held_lt
  have hlength : (m.text ++ m.behind).length = m.held.length + m.behind.length := by
    rw [List.length_append, text, List.length_reverse]
  have hback : m.buffer.drop 1 = (m.text ++ m.behind).drop 1 ++ List.replicate
      (m.capacity - m.held.length - m.behind.length - (1 - (m.held.length + m.behind.length)))
      0 := by
    rw [buffer, List.drop_append, List.drop_replicate, hlength]
  rw [hback, buffer, text_clear, List.nil_append]
  simp only [clear, List.length_nil, List.length_cons, List.length_drop, hlength, List.cons_append]
  congr 3
  omega

/-! ## What is kept of what is given -/

/-- What is asked of a mailbox. -/
inductive Call where
  /-- Append a text. -/
  | append (s : Bytes)
  /-- Drop the text. -/
  | clear
  /-- Show at most so many bytes of the text. -/
  | read (max : Nat)
  deriving DecidableEq

namespace Call

/-- The text that a call gives. -/
def given : Call → Bytes
  | append s => upToNul s
  | clear | read _ => []

/-- What is given since the last time the mailbox is cleared. -/
def joined (calls : List Call) : Bytes :=
  (calls.rtakeWhile (· ≠ clear)).flatMap given

theorem joined_append_clear (calls : List Call) : joined (calls ++ [clear]) = [] := by
  rw [joined, List.rtakeWhile_concat_neg _ _ _ (by simp), List.flatMap_nil]

theorem joined_append_of_ne_clear (calls : List Call) (c : Call) (hc : c ≠ clear) :
    joined (calls ++ [c]) = joined calls ++ c.given := by
  rw [joined, List.rtakeWhile_concat_pos (· ≠ clear) _ _ (decide_eq_true hc), List.flatMap_append,
    List.flatMap_singleton, joined]

theorem not_mem_given (c : Call) : 0 ∉ c.given := by
  cases c with
  | append s => exact fun h => by simpa using List.mem_takeWhile_imp h
  | clear => exact List.not_mem_nil
  | read => exact List.not_mem_nil

theorem not_mem_joined (calls : List Call) : 0 ∉ joined calls := fun h =>
  have ⟨c, _, hc⟩ := List.mem_flatMap.mp h
  c.not_mem_given hc

end Call

/-- The mailbox after a call. -/
def call (m : Mailbox) : Call → Mailbox
  | .append s => m.append s
  | .clear => m.clear
  | .read _ => m

/-- What does not fit of the first text keeps out all that comes behind it. -/
theorem take_take_append (a b : Bytes) (n : Nat) : (a.take n ++ b).take n = (a ++ b).take n := by
  rw [List.take_append, List.take_append, List.take_take, Nat.min_self, List.length_take]
  congr 2
  omega

/-- A text is stored up to its first NUL, as far as there is room. -/
theorem text_append_eq_take (m : Mailbox) (s : Bytes) :
    (m.append s).text = (m.text ++ upToNul s).take (m.capacity - 1) := by
  rw [text_append, List.take_append, m.take_text, length_text]

/-- What a mailbox of some size has after a list of calls. -/
structure Kept (capacity : Nat) (calls : List Call) (m : Mailbox) : Prop where
  /-- The buffer has not changed its size. -/
  capacity_eq : m.capacity = max capacity 1
  /-- The text is all that fits of what was given. -/
  text_eq : m.text = (Call.joined calls).take (max capacity 1 - 1)
  /-- Behind the text is a NUL. -/
  head_rest : m.rest.head? = some 0

theorem kept_empty (capacity : Nat) : Kept capacity [] (empty capacity) where
  capacity_eq := rfl
  text_eq := List.take_nil.symm
  head_rest := by
    have hne : max capacity 1 ≠ 0 := Nat.ne_of_gt (Nat.le_max_right capacity 1)
    simp [rest, empty, List.head?_replicate, hne]

theorem Kept.call {capacity : Nat} {calls : List Call} {m : Mailbox} (h : m.Kept capacity calls)
    (c : Call) : (m.call c).Kept capacity (calls ++ [c]) := by
  cases c with
  | append s =>
    refine ⟨h.capacity_eq, ?_, ?_⟩
    · rw [Call.joined_append_of_ne_clear _ (.append s) nofun, Mailbox.call, text_append_eq_take,
        h.text_eq, h.capacity_eq, take_take_append, Call.given]
    · rw [Mailbox.call, rest_append, List.head?_cons]
  | clear =>
    refine ⟨h.capacity_eq, ?_, ?_⟩
    · rw [Call.joined_append_clear, List.take_nil, Mailbox.call, text_clear]
    · rfl
  | read n =>
    refine ⟨h.capacity_eq, ?_, h.head_rest⟩
    rw [Call.joined_append_of_ne_clear _ (.read n) nofun, Call.given, List.append_nil,
      Mailbox.call, h.text_eq]

/-- A run of calls keeps what fits of what they give. -/
theorem kept_foldl (capacity : Nat) (calls : List Call) :
    (calls.foldl Mailbox.call (empty capacity)).Kept capacity calls := by
  induction calls using List.reverseRecOn with
  | nil => exact kept_empty capacity
  | append_singleton calls c ih =>
    rw [List.foldl_append]
    exact ih.call c

theorem Kept.not_mem_text {capacity : Nat} {calls : List Call} {m : Mailbox}
    (h : m.Kept capacity calls) : 0 ∉ m.text := fun h0 =>
  Call.not_mem_joined calls (List.mem_of_mem_take (h.text_eq ▸ h0))

theorem take_buffer (m : Mailbox) : m.buffer.take m.length = m.text := by
  rw [buffer_eq, ← length_text, List.take_left]

/-- What follows the text in the buffer is found at the length of the text. -/
theorem getElem?_buffer (m : Mailbox) : m.buffer[m.length]? = m.rest.head? := by
  rw [buffer_eq, ← length_text, List.getElem?_append_right (Nat.le_refl _), Nat.sub_self,
    List.head?_eq_getElem?]

/-! ## Reading and writing by index -/

/-- Writes a text over the bytes of a buffer from some place on, if these are places in it. -/
def overwrite? (buffer : Bytes) (start : Nat) (s : Bytes) : Option Bytes := do
  let (front, back) ← buffer.splitAt? start
  let (_, back) ← back.splitAt? s.length
  return front ++ s ++ back

theorem overwrite?_append (front old back s : Bytes) (h : old.length = s.length) :
    overwrite? (front ++ (old ++ back)) front.length s = some (front ++ s ++ back) := by
  rw [overwrite?, Bytes.splitAt?_append, ← h]
  simp only [Option.bind_eq_bind, Option.bind_some, Bytes.splitAt?_append, Option.pure_def]

/-- The memory of a mailbox : a buffer, and how many of its bytes are the text. -/
structure Slot where
  /-- The buffer. -/
  buffer : Bytes
  /-- The length of the text. -/
  length : Nat

/-- What a call answers. -/
inductive Answer where
  /-- So many bytes were stored. -/
  | stored (n : Nat)
  /-- The text is gone. -/
  | cleared
  /-- A part of the text. -/
  | shown (s : Bytes)

namespace Slot

/-- Appends a text as far as there is room, puts a NUL behind it, and counts what is stored. -/
def append? (slot : Slot) (s : Bytes) : Option (Slot × Nat) := do
  -- the room is a difference of lengths, which a longer text would make negative
  guard (slot.length < slot.buffer.length)
  let n := min (upToNul s).length (slot.buffer.length - 1 - slot.length)
  let (text, _) ← (upToNul s).splitAt? n
  let buffer ← overwrite? slot.buffer slot.length text
  let buffer ← overwrite? buffer (slot.length + n) [0]
  return (⟨buffer, slot.length + n⟩, n)

/-- Drops the text. -/
def clear? (slot : Slot) : Option Slot := do
  return ⟨← overwrite? slot.buffer 0 [0], 0⟩

/-- Copies at most `max` bytes of the text. -/
def read? (slot : Slot) (max : Nat) : Option Bytes := do
  let (text, _) ← slot.buffer.splitAt? (min (min max slot.buffer.length) slot.length)
  return text

/-- The slot after a call and the answer, unless an index is out of range. -/
def call? (slot : Slot) : Call → Option (Slot × Answer)
  | .append s => do
    let (slot, n) ← slot.append? s
    return (slot, .stored n)
  | .clear => do return (← slot.clear?, .cleared)
  | .read max => do return (slot, .shown (← slot.read? max))

end Slot

/-- The memory of a mailbox. -/
def slot (m : Mailbox) : Slot :=
  ⟨m.buffer, m.length⟩

/-- What a mailbox answers to a call. -/
def answer (m : Mailbox) : Call → Answer
  | .append s => .stored (m.stored s).length
  | .clear => .cleared
  | .read max => .shown (m.read max)

/-- A mailbox begins with zeros and no text. -/
theorem slot_empty (capacity : Nat) :
    (empty capacity).slot = ⟨List.replicate (max capacity 1) 0, 0⟩ :=
  rfl

theorem splitAt?_upToNul (m : Mailbox) (s : Bytes) : ∃ dropped,
    (upToNul s).splitAt? (m.stored s).length = some (m.stored s, dropped) := by
  refine ⟨(upToNul s).drop (m.capacity - 1 - m.held.length), ?_⟩
  have h := Bytes.splitAt?_append (m.stored s) ((upToNul s).drop (m.capacity - 1 - m.held.length))
  rwa [stored, List.take_append_drop, ← stored] at h

theorem overwrite?_buffer (m : Mailbox) (s : Bytes) :
    overwrite? m.buffer m.length (m.stored s) =
      some (m.text ++ m.stored s ++ m.rest.drop (m.stored s).length) := by
  have hold : (m.rest.take (m.stored s).length).length = (m.stored s).length :=
    List.length_take_of_le (m.length_stored_lt s).le
  have h := overwrite?_append m.text _ (m.rest.drop (m.stored s).length) _ hold
  rwa [List.take_append_drop, ← buffer_eq, length_text] at h

/-- The NUL is written over the byte behind the text that was stored. -/
theorem overwrite?_nul (m : Mailbox) (s : Bytes) :
    overwrite? (m.text ++ m.stored s ++ m.rest.drop (m.stored s).length)
      (m.length + (m.stored s).length) [0] = some (m.append s).buffer := by
  have hlt := m.length_stored_lt s
  have h := overwrite?_append (m.text ++ m.stored s) [m.rest[(m.stored s).length]]
    (m.rest.drop ((m.stored s).length + 1)) [0] rfl
  have hbuffer : (m.append s).buffer =
      m.text ++ m.stored s ++ [0] ++ m.rest.drop ((m.stored s).length + 1) := by
    rw [buffer_eq, rest_append, List.append_cons, text_append]
    rfl
  rwa [List.singleton_append, List.getElem_cons_drop, List.length_append, length_text,
    ← hbuffer] at h

theorem append?_slot (m : Mailbox) (s : Bytes) :
    m.slot.append? s = some ((m.append s).slot, (m.stored s).length) := by
  obtain ⟨dropped, hsplit⟩ := m.splitAt?_upToNul s
  have hlt : m.length < m.buffer.length := m.length_buffer ▸ m.held_lt
  have hcount : min (upToNul s).length (m.buffer.length - 1 - m.length) = (m.stored s).length := by
    rw [stored, List.length_take, length_buffer, length, Nat.min_comm]
  simp only [Slot.append?, slot, hcount, hsplit, guard, hlt, if_true, Option.pure_def,
    Option.bind_eq_bind, Option.bind_some, overwrite?_buffer, overwrite?_nul, length_append]

theorem clear?_slot (m : Mailbox) : m.slot.clear? = some m.clear.slot := by
  have hpos : 0 < m.buffer.length := m.length_buffer ▸ Nat.zero_lt_of_lt m.held_lt
  have h : overwrite? m.buffer 0 [0] = some (0 :: m.buffer.drop 1) := by
    have h := overwrite?_append [] [m.buffer[0]] (m.buffer.drop 1) [0] rfl
    rwa [List.singleton_append, List.getElem_cons_drop, List.drop_zero] at h
  rw [Slot.clear?, slot, h, ← buffer_clear]
  rfl

theorem length_read (m : Mailbox) (max : Nat) : (m.read max).length = min max m.length := by
  rw [read, List.length_take, length_text]

theorem read?_slot (m : Mailbox) (max : Nat) : m.slot.read? max = some (m.read max) := by
  have hlt := m.held_lt
  have hcount : min (min max m.buffer.length) m.length = (m.read max).length := by
    rw [length_read, length_buffer, length]
    omega
  have h := Bytes.splitAt?_append (m.read max) (m.text.drop max ++ m.rest)
  rw [← List.append_assoc, read, List.take_append_drop, ← buffer_eq, ← read] at h
  rw [Slot.read?, slot, hcount, h]
  rfl

/-- A call on the memory of a mailbox finds all its indices in range, and does and answers what it
does and answers on the mailbox. -/
theorem call?_slot (m : Mailbox) (c : Call) :
    m.slot.call? c = some ((m.call c).slot, m.answer c) := by
  cases c with
  | append s => simp only [Slot.call?, append?_slot]; rfl
  | clear => simp only [Slot.call?, clear?_slot]; rfl
  | read max => simp only [Slot.call?, read?_slot]; rfl

/-! ## Handles -/

/-- A handle on one of several mailboxes. -/
inductive Handle (ι : Type) where
  /-- The one that the mailbox was created with. -/
  | created (i : ι)
  /-- A clone of a handle. -/
  | clone (h : Handle ι)

/-- The mailbox that a handle is on : a clone is on the same one. -/
def Handle.box {ι : Type} : Handle ι → ι
  | created i => i
  | clone h => h.box

/-- A call through a handle. -/
structure Use (ι : Type) where
  /-- The handle. -/
  handle : Handle ι
  /-- What is asked. -/
  call : Call

section

variable {ι : Type} [DecidableEq ι]

/-- What is asked of a mailbox, in order, through whichever handles. -/
def asked (i : ι) (uses : List (Use ι)) : List Call :=
  (uses.filter (·.handle.box = i)).map Use.call

/-- The mailboxes after some uses. -/
def after (boxes : ι → Mailbox) (uses : List (Use ι)) : ι → Mailbox :=
  uses.foldl (fun boxes u =>
    Function.update boxes u.handle.box ((boxes u.handle.box).call u.call)) boxes

/-- The memory of several mailboxes. -/
def memory (boxes : ι → Mailbox) : ι → Slot :=
  slot ∘ boxes

/-- Uses the memory that a handle points to. -/
def Slot.use? (slots : ι → Slot) (u : Use ι) : Option ((ι → Slot) × Answer) := do
  let (slot, answer) ← (slots u.handle.box).call? u.call
  return (Function.update slots u.handle.box slot, answer)

/-- The memory after some uses, unless an index is out of range in one of them. -/
def Slot.run? (slots : ι → Slot) (uses : List (Use ι)) : Option (ι → Slot) :=
  uses.foldlM (fun slots u => do return (← use? slots u).1) slots

/-- Only what is asked of a mailbox itself makes it what it is. -/
theorem after_apply (boxes : ι → Mailbox) (uses : List (Use ι)) (i : ι) :
    after boxes uses i = (asked i uses).foldl call (boxes i) := by
  induction uses generalizing boxes with
  | nil => rfl
  | cons u uses ih =>
    rw [after, List.foldl_cons, ← after, ih, asked, asked, List.filter_cons]
    by_cases hu : u.handle.box = i
    · rw [if_pos (decide_eq_true hu), List.map_cons, List.foldl_cons, hu, Function.update_self]
    · rw [if_neg (by simpa using hu), Function.update_of_ne (Ne.symm hu)]

/-- A use finds all its indices in range, and changes the memory of one mailbox. -/
theorem use?_memory (boxes : ι → Mailbox) (u : Use ι) :
    Slot.use? (memory boxes) u =
      some (Function.update (memory boxes) u.handle.box ((boxes u.handle.box).call u.call).slot,
        (boxes u.handle.box).answer u.call) := by
  rw [Slot.use?, memory, Function.comp_apply, call?_slot]
  rfl

/-- No index is out of range in any run, and what it leaves is the memory of the mailboxes. -/
theorem run?_memory (boxes : ι → Mailbox) (uses : List (Use ι)) :
    Slot.run? (memory boxes) uses = some (memory (after boxes uses)) := by
  induction uses generalizing boxes with
  | nil => rfl
  | cons u uses ih =>
    have hstep : Function.update (memory boxes) u.handle.box
        ((boxes u.handle.box).call u.call).slot = memory (after boxes [u]) :=
      (Function.comp_update ..).symm
    rw [Slot.run?, List.foldlM_cons, use?_memory, hstep]
    exact ih (after boxes [u])

/-- In any run of calls through any handles, no index into a mailbox is out of range; what a
mailbox that begins as zeros holds is all that fits of the texts, each up to its first NUL, appended
since it was last cleared; its buffer is that text and a NUL; and through each of its handles an
append says by how much the text grows, and a read shows a part of the text from its start and
changes nothing. -/
theorem handles_share_text {boxes : ι → Mailbox} {i : ι} {capacity : Nat}
    (hnew : boxes i = empty capacity) (uses : List (Use ι)) :
    let m := after boxes uses i
    let slots := memory (after boxes uses)
    memory boxes i = ⟨List.replicate (max capacity 1) 0, 0⟩ ∧
      Slot.run? (memory boxes) uses = some slots ∧
      m.text = (Call.joined (asked i uses)).take (max capacity 1 - 1) ∧
      (m.buffer.length = max capacity 1 ∧ m.buffer.take m.length = m.text ∧
        m.buffer[m.length]? = some 0 ∧ 0 ∉ m.text) ∧
      ∀ handle : Handle ι, handle.box = i →
        (∀ s, ∃ n,
          Slot.use? slots ⟨handle, .append s⟩ =
              some (Function.update slots i (m.append s).slot, .stored n) ∧
            (m.append s).text = m.text ++ (upToNul s).take n ∧
            (m.append s).length = m.length + n) ∧
        ∀ n, Slot.use? slots ⟨handle, .read n⟩ = some (slots, .shown (m.read n)) ∧
          m.read n = m.text.take (min n m.length) := by
  intro m slots
  have hkept : m.Kept capacity (asked i uses) := by
    have h := kept_foldl capacity (asked i uses)
    rwa [← hnew, ← after_apply] at h
  refine ⟨?_, run?_memory boxes uses, hkept.text_eq,
    ⟨?_, m.take_buffer, ?_, hkept.not_mem_text⟩, ?_⟩
  · rw [memory, Function.comp_apply, hnew, slot_empty]
  · rw [length_buffer, hkept.capacity_eq]
  · rw [getElem?_buffer, hkept.head_rest]
  rintro handle rfl
  refine ⟨fun s => ⟨(m.stored s).length, use?_memory .., ?_, m.length_append s⟩,
    fun n => ⟨?_, ?_⟩⟩
  · rw [text_append, List.append_cancel_left_eq, List.take_eq_take_iff, stored, List.length_take]
    simp only [length]
    omega
  · rw [use?_memory]
    exact congrArg (fun slots => some (slots, _)) (Function.update_eq_self handle.box slots)
  · rw [read, List.take_eq_take_iff, length_text]
    omega

/-- Of two mailboxes, one is filled, cleared and filled again through three handles. -/
theorem handles_share_text_of_two :
    let boxes : Bool → Mailbox := fun i => if i then empty 4 else empty 0
    let own : Handle Bool := .created true
    let uses : List (Use Bool) := [⟨own, .append [0x61, 0x62, 0x63, 0x64]⟩,
      ⟨.clone own, .clear⟩, ⟨.created false, .append [0x7A]⟩,
      ⟨.clone (.clone own), .append [0x78, 0, 0x79]⟩, ⟨own, .read 7⟩,
      ⟨.clone own, .append [0x79, 0x7A, 0x7A]⟩]
    let m := after boxes uses true
    boxes true = empty 4 ∧ Slot.run? (memory boxes) uses ≠ none ∧ m.text = [0x78, 0x79, 0x7A] ∧
      m.buffer = [0x78, 0x79, 0x7A, 0] ∧
      Slot.use? (memory (after boxes uses)) ⟨.clone own, .read 2⟩ =
        some (memory (after boxes uses), .shown [0x78, 0x79]) := by
  intro boxes own uses m
  have hnew : boxes true = empty 4 := rfl
  obtain ⟨-, hrun, htext, -, hasked⟩ := handles_share_text hnew uses
  have hread := ((hasked (.clone own) rfl).2 2).1
  refine ⟨rfl, ?_, htext.trans (by decide), by decide, hread.trans ?_⟩
  · rw [hrun]
    nofun
  · rw [show m.read 2 = [0x78, 0x79] by decide]

end

end Mailbox

end Coprocessor
