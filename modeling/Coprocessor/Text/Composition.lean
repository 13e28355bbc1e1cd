import Coprocessor.Text.Composition.Classes
import Coprocessor.Text.Composition.Pairs
import Coprocessor.Text.Composition.Variants

/-!
# Composed texts

Many characters can be written in several ways : as one character, or as a base and
marks after it. `composed` picks one way for each : a text is taken apart, its marks
are put in the order of their classes, and bases are joined with their marks again.
-/

namespace Coprocessor.Text

/-! ## Syllables -/

/-- A syllable of two or three letters, by the numbers of its letters. The third is zero
where it has two. -/
def syllable (first second third : Nat) : Nat :=
  0xAC00 + (first * 21 + second) * 28 + third

/-- The letters of a syllable, if the character is one. -/
def letters? (c : Nat) : Option (List Nat) :=
  if 0xAC00 ≤ c && c ≤ 0xD7A3 then
    let i := c - 0xAC00
    let third := if i % 28 = 0 then [] else [0x11A7 + i % 28]
    some ([0x1100 + i / 588, 0x1161 + i % 588 / 28] ++ third)
  else none

/-- The syllable that a letter or syllable makes with the letter after it. -/
def joined? (c d : Nat) : Option Nat :=
  if 0x1100 ≤ c && c ≤ 0x1112 && 0x1161 ≤ d && d ≤ 0x1175 then
    some (syllable (c - 0x1100) (d - 0x1161) 0)
  else if 0xAC00 ≤ c && c ≤ 0xD7A3 && (c - 0xAC00) % 28 == 0 && 0x11A8 ≤ d && d ≤ 0x11C2 then
    some (c + (d - 0x11A7))
  else none

/-! ## Taking apart -/

/-- The characters that a character is made of, at most `depth` marks taken off it. -/
def parts : Nat → Nat → List Nat
  | 0, c => [c]
  | depth + 1, c =>
    match letters? c, splitVariants.lookup c, singleVariants.lookup c, markedPairs.lookup c with
    | some ls, _, _, _ => ls
    | none, some cs, _, _ => cs
    | none, none, some d, _ => [d]
    | none, none, none, some (base, mark) => parts depth base ++ [mark]
    | none, none, none, none => [c]

/-- The greatest number of marks on one character. -/
def maxMarks : Nat := 4

/-! ## Ordering marks -/

/-- A character in front of others, behind the marks that go before it. -/
def settled (c : Nat) : List Nat → List Nat
  | [] => [c]
  | d :: r => if 0 < markClass d && markClass d < markClass c then d :: settled c r else c :: d :: r

/-- Each run of marks in the order of their classes. -/
def ordered (s : List Nat) : List Nat :=
  s.foldr settled []

/-- Nothing is lost where a character settles. -/
theorem settled_perm (c : Nat) (s : List Nat) : (settled c s).Perm (c :: s) := by
  induction s with
  | nil => exact .refl _
  | cons d r ih =>
    simp only [settled]
    split
    · exact (ih.cons d).trans (.swap c d r)
    · exact .refl _

/-- Ordering keeps the characters. -/
theorem ordered_perm (s : List Nat) : (ordered s).Perm s := by
  induction s with
  | nil => exact .refl _
  | cons c r ih => exact (settled_perm c _).trans (ih.cons c)

/-! ## Joining -/

/-- The character that stands for a base and a mark or letter after it. -/
def compositeOf? (base mark : Nat) : Option Nat :=
  (joined? base mark).or ((markedPairs.find? (·.2 == (base, mark))).map (·.1))

/-- Joins a base with the marks that follow, `between` being those that stay, the last
first. A mark reaches the base past marks of lower classes only. -/
def joinedOnto (base : Nat) (between : List Nat) : List Nat → List Nat
  | [] => base :: between.reverse
  | c :: r =>
    let reaches := between.head?.all (markClass · < markClass c)
    match if reaches then compositeOf? base c else none with
    | some d => joinedOnto d between r
    | none =>
      if markClass c = 0 then base :: between.reverse ++ joinedOnto c [] r
      else joinedOnto base (c :: between) r

/-- Joins bases with their marks. -/
def recomposed : List Nat → List Nat
  | [] => []
  | c :: r => if markClass c = 0 then joinedOnto c [] r else c :: recomposed r

/-- The composed form of a text. -/
def composed (s : String) : String :=
  let taken := ordered (s.toList.flatMap fun c => parts maxMarks c.toNat)
  String.ofList ((recomposed taken).map Char.ofNat)

end Coprocessor.Text
