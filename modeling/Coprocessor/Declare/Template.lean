import Coprocessor.Declare.Lexer
import Coprocessor.Declare.Spec

/-!
# Places of messages

A message is plain text with places in curly brackets; doubled brackets stand for
themselves. A place takes the value it names, the one of its number, or the next, and
may say after a colon how the value is written. The width and the number of digits
may be values too. `parts?` reads a message.
-/

namespace Coprocessor.Declare

/-! ## Parts -/

/-- What a place takes. -/
inductive Choice where
  /-- The value of that number. -/
  | position (n : Nat)
  /-- The value of that name. -/
  | name (s : String)
  deriving DecidableEq, Repr

/-- A width or a number of digits. -/
inductive Count where
  /-- None is asked for. -/
  | unset
  /-- A number. -/
  | exactly (n : Nat)
  /-- The number that a value is. -/
  | taken (c : Choice)
  deriving DecidableEq, Repr

/-- A part of a message. -/
inductive Part where
  /-- A character. -/
  | plain (c : Char)
  /-- A place, and how a value is written there. -/
  | place (choice : Choice) (s : Spec) (width precision : Count)
  deriving DecidableEq, Repr

/-! ## Reading places -/

/-- The side that a sign means. -/
def side? : Char → Option Side
  | '<' => some .left
  | '^' => some .middle
  | '>' => some .right
  | _ => none

/-- Reads what fills a place, and the side. -/
def readSide (s : Spec) : List Char → Spec × List Char
  | [] => (s, [])
  | [c] => if (side? c).isSome then ({ s with side := side? c }, []) else (s, [c])
  | c :: d :: r =>
    if (side? d).isSome then ({ s with fill := c, side := side? d }, r)
    else if (side? c).isSome then ({ s with side := side? c }, d :: r)
    else (s, c :: d :: r)

/-- Reads the signs that stand before the width. A zero before a dollar sign is none of
them, but a position. -/
def readFlags (s : Spec) (r : List Char) : Spec × List Char :=
  let (s, r) := if r.head? == some '+' then ({ s with plus := true }, r.drop 1)
    else if r.head? == some '-' then (s, r.drop 1) else (s, r)
  let (s, r) := if r.head? == some '#' then ({ s with alternate := true }, r.drop 1) else (s, r)
  if r.head? == some '0' && (r.drop 1).head? != some '$' then ({ s with zeros := true }, r.drop 1)
  else (s, r)

/-- The number that some digits are. -/
def numberOf (digits : List Char) : Nat :=
  digits.foldl (fun n c => n * 10 + (c.toNat - 0x30)) 0

/-- Reads a position or a name. -/
def readChoice? (r : List Char) : Option Choice × List Char :=
  if r.head?.any (·.isDigit) then
    (some (.position (numberOf (r.takeWhile (·.isDigit)))), r.dropWhile (·.isDigit))
  else if r.head?.any beginsName then
    (some (.name (String.ofList (r.takeWhile isNameChar))), r.dropWhile isNameChar)
  else (none, r)

/-- Reads a number, or a position or name before a dollar sign. -/
def readCount (r : List Char) : Count × List Char :=
  match readChoice? r with
  | (some c, '$' :: rest) => (.taken c, rest)
  | (some (.position n), rest) => (.exactly n, rest)
  | _ => (.unset, r)

/-- Reads the number of digits, which may be the next value. -/
def readPrecision (next : Nat) : List Char → Count × Nat × List Char
  | '.' :: '*' :: r => (.taken (.position next), next + 1, r)
  | '.' :: r => ((readCount r).1, next, (readCount r).2)
  | r => (.unset, next, r)

/-- Reads the form. -/
def readForm? (s : Spec) : List Char → Option (Spec × List Char)
  | '?' :: r => some ({ s with structured := true }, r)
  | 'x' :: '?' :: r => some ({ s with structured := true, form := .hex false }, r)
  | 'X' :: '?' :: r => some ({ s with structured := true, form := .hex true }, r)
  | 'x' :: r => some ({ s with form := .hex false }, r)
  | 'X' :: r => some ({ s with form := .hex true }, r)
  | 'o' :: r => some ({ s with form := .octal }, r)
  | 'b' :: r => some ({ s with form := .binary }, r)
  | 'e' :: r => some ({ s with form := .exponent false }, r)
  | 'E' :: r => some ({ s with form := .exponent true }, r)
  | r => if r.head?.any beginsName then none else some (s, r)

/-- Reads what follows the opening bracket of a place, `next` being the number of values
taken by their order so far. -/
def place? (next : Nat) (r : List Char) : Option (Part × Nat × List Char) := do
  let (choice, r) := readChoice? (r.dropWhile Text.isBlank)
  let ((s, width, precision, next), r) ← match r.dropWhile Text.isBlank with
    | ':' :: r =>
      let (s, r) := readSide {} r
      let (s, r) := readFlags s r
      let (width, r) := readCount r
      let (precision, next, r) := readPrecision next r
      (readForm? s r).map fun (s, r) => ((s, width, precision, next), r)
    | r => some (({}, .unset, .unset, next), r)
  match choice, r.dropWhile Text.isBlank with
  | some c, '\x7d' :: r => some (.place c s width precision, next, r)
  | none, '\x7d' :: r => some (.place (.position next) s width precision, next + 1, r)
  | _, _ => none

/-! ## Reading messages -/

/-- The parts of a message, unless a bracket stands alone in it, `next` being the number
of values taken by their order so far. -/
def partsFrom? (next : Nat) : List Char → Option (List Part)
  | [] => some []
  | '\x7b' :: '\x7b' :: r => (partsFrom? next r).map (.plain '\x7b' :: ·)
  | '\x7d' :: '\x7d' :: r => (partsFrom? next r).map (.plain '\x7d' :: ·)
  | '\x7b' :: r =>
    match place? next r with
    | some (p, next, rest) =>
      if rest.length ≤ r.length then (partsFrom? next rest).map (p :: ·) else none
    | none => none
  | '\x7d' :: _ => none
  | c :: r => (partsFrom? next r).map (.plain c :: ·)
termination_by s => s.length
decreasing_by all_goals simp only [List.length_cons]; omega

/-- The parts of a message. -/
def parts? (message : String) : Option (List Part) :=
  partsFrom? 0 message.toList

end Coprocessor.Declare
