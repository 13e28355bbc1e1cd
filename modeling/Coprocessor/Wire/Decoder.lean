import Coprocessor.Bytes

/-!
# Reading from the front of a string of bytes

A decoder takes a value from the front of its input and leaves the rest. When it
fails it says why, and the rest it leaves then is what it had not yet taken : a
value that is cut short stays where it is, one that makes no sense is gone.
-/

namespace Coprocessor

/-- Why a value could not be read. -/
inductive DecodeError where
  /-- The input ended before the value did. -/
  | endOfInput
  /-- The bytes are no value of the type. -/
  | invalidValue
  /-- A length is beyond the limit. -/
  | lengthOverflow
  deriving DecidableEq, Repr

/-- The text in messages. -/
def DecodeError.message : DecodeError → String
  | .endOfInput => "unexpected end of input"
  | .invalidValue => "invalid value"
  | .lengthOverflow => "length prefix too large"

/-- A reader of values of type `α` : its outcome, and the input it leaves. -/
def Decoder (α : Type) := Bytes → Except DecodeError α × Bytes

namespace Decoder

instance : Monad Decoder where
  pure a := fun s => (.ok a, s)
  bind x f := fun s =>
    match x s with
    | (.ok a, rest) => f a rest
    | (.error e, rest) => (.error e, rest)

/-- Reads nothing and fails. -/
def fail (e : DecodeError) : Decoder α :=
  fun s => (.error e, s)

/-- The next `n` bytes. -/
def take (n : Nat) : Decoder Bytes := fun s =>
  match Bytes.splitAt? n s with
  | some (front, rest) => (.ok front, rest)
  | none => (.error .endOfInput, s)

/-- The value that `x` would read, left unread; none if it would fail. -/
def peek (x : Decoder α) : Decoder (Option α) :=
  fun s => (.ok (x s).1.toOption, s)

/-- The number of bytes left. -/
def remaining : Decoder Nat :=
  fun s => (.ok s.length, s)

/-- The value a partial function makes of what `x` reads. -/
def filterMap (f : α → Option β) (x : Decoder α) : Decoder β := do
  match f (← x) with
  | some b => pure b
  | none => fail .invalidValue

/-- The values of `n` readings, after those of `done` in reverse. -/
def manyAfter (x : Decoder α) : Nat → List α → Decoder (List α)
  | 0, done => pure done.reverse
  | n + 1, done => do manyAfter x n ((← x) :: done)

/-- The values of `n` readings one after the other. -/
def many (x : Decoder α) (n : Nat) : Decoder (List α) :=
  manyAfter x n []

/-- The value of an input that holds it and nothing else. -/
def whole (x : Decoder α) (s : Bytes) : Except DecodeError α :=
  match x s with
  | (.ok a, []) => .ok a
  | (.ok _, _ :: _) => .error .invalidValue
  | (.error e, _) => .error e

/-! ## What is taken -/

/-- A decoder that takes `n` bytes whenever it succeeds. -/
def Takes (n : Nat) (x : Decoder α) : Prop :=
  ∀ s rest a, x s = (.ok a, rest) → rest.length + n = s.length

theorem takes_pure (a : α) : (pure a : Decoder α).Takes 0 := by
  intro s rest b h
  simp_all [pure]

theorem takes_take (n : Nat) : (take n).Takes n := by
  intro s rest a h
  by_cases hn : n ≤ s.length
  · simp only [take, Bytes.splitAt?, List.length_take, Nat.min_eq_left hn, if_true,
      Prod.mk.injEq] at h
    simp [← h.2]
    omega
  · simp [take, Bytes.splitAt?_eq_none_iff.mpr (Nat.lt_of_not_le hn)] at h

theorem Takes.bind {x : Decoder α} {f : α → Decoder β} {m n : Nat} (hx : x.Takes m)
    (hf : ∀ a, (f a).Takes n) : (x >>= f).Takes (m + n) := by
  intro s rest b h
  simp only [Bind.bind] at h
  split at h
  · rename_i h'
    have := hx _ _ _ h'
    have := hf _ _ _ _ h
    omega
  · simp at h

end Decoder

end Coprocessor
