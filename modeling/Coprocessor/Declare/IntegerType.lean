/-!
# Integer types

An integer type has a number of bits, and a sign or none. A word of that many bits is
one of its integers, and each integer is a word.
-/

namespace Coprocessor.Declare

/-- A type of integers. -/
structure IntegerType where
  /-- Whether there are negative integers. -/
  signed : Bool
  /-- The number of bits. -/
  bits : Nat
  deriving DecidableEq, Repr

namespace IntegerType

/-- The integer types, by their names. -/
def names : List (String × IntegerType) :=
  [("u8", ⟨false, 8⟩), ("u16", ⟨false, 16⟩), ("u32", ⟨false, 32⟩), ("u64", ⟨false, 64⟩),
    ("u128", ⟨false, 128⟩), ("usize", ⟨false, 64⟩), ("i8", ⟨true, 8⟩), ("i16", ⟨true, 16⟩),
    ("i32", ⟨true, 32⟩), ("i64", ⟨true, 64⟩), ("i128", ⟨true, 128⟩), ("isize", ⟨true, 64⟩)]

/-- The integer type of that name. -/
def ofName? (s : String) : Option IntegerType :=
  names.lookup s

/-- The number of words. -/
def modulus (t : IntegerType) : Nat :=
  Nat.pow 2 t.bits

/-- The least integer. -/
def least (t : IntegerType) : Int :=
  if t.signed then -(Nat.pow 2 (t.bits - 1) : Nat) else 0

/-- The greatest integer. -/
def greatest (t : IntegerType) : Int :=
  t.least + t.modulus - 1

/-- The integer that a word is. -/
def ofWord (t : IntegerType) (n : Nat) : Int :=
  if t.signed && Nat.pow 2 (t.bits - 1) ≤ n then n - t.modulus else n

/-- The word that an integer is. -/
def toWord (t : IntegerType) (v : Int) : Nat :=
  (v % t.modulus).toNat

/-- A word is the one that its integer is. -/
theorem toWord_ofWord {t : IntegerType} {n : Nat} (h : n < t.modulus) :
    t.toWord (t.ofWord n) = n := by
  have hn : (n : Int) % t.modulus = n := Int.emod_eq_of_lt (by omega) (by omega)
  simp only [toWord, ofWord]
  split
  · rw [Int.sub_emod_right, hn, Int.toNat_natCast]
  · rw [hn, Int.toNat_natCast]

end IntegerType

end Coprocessor.Declare
