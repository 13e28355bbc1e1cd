import Coprocessor.Declare.IntegerType
import Coprocessor.Declare.Lexer

/-!
# Constants

The values of integer literals, and of the expressions that the length of an array is
given by. Operators of a higher level are applied first, those of one level from the
left.
-/

namespace Coprocessor.Declare

/-! ## Literals -/

/-- The base of an integer literal, and its text after the sign of the base. -/
def baseOf : List Char → Nat × List Char
  | '0' :: 'x' :: r => (16, r)
  | '0' :: 'o' :: r => (8, r)
  | '0' :: 'b' :: r => (2, r)
  | r => (10, r)

/-- Whether a character is a digit of a literal in some base. A digit too large for
the base counts : with it the literal makes no sense. -/
def isLiteralDigit (base : Nat) (c : Char) : Bool :=
  c == '_' || c.isDigit || (base == 16 && hexValue c < 16 && c.isAlpha)

/-- Whether a decimal literal goes on with a point or an exponent, and is no integer. -/
def isFractional (r : List Char) : Bool :=
  r.head? == some '.' || ((r.head? == some 'e' || r.head? == some 'E') &&
    ((r.drop 1).dropWhile (· == '_')).head?.any fun c => c.isDigit || c == '+' || c == '-')

/-- The value of an integer literal, whatever type is named after its digits. -/
def integer? (s : String) : Option Nat :=
  let (base, r) := baseOf s.toList
  let digits := (r.takeWhile (isLiteralDigit base)).filter (· != '_')
  if digits.isEmpty || digits.any (fun c => base ≤ hexValue c) ||
      (base == 10 && isFractional (r.dropWhile (isLiteralDigit base))) then none
  else some (digits.foldl (fun n c => n * base + hexValue c) 0)

/-- The number of the character that a literal is. -/
def characterNumber? (s : String) : Option Nat :=
  match unescape ((s.toList.dropWhile (· != '\'')).drop 1) with
  | [c, '\''] => some c.toNat
  | _ => none

namespace Constant

/-! ## Operators -/

/-- An operator on words. -/
def bitwise (f : Nat → Nat → Nat) (a b : Int) : Int :=
  f a.toNat b.toNat

/-- The operator that a code begins with, its level, and what follows it. -/
def operator? : Code → Option ((Int → Int → Int) × Nat × Code)
  | .mark '*' _ :: r => some ((· * ·), 6, r)
  | .mark '/' _ :: r => some (Int.tdiv, 6, r)
  | .mark '%' _ :: r => some (Int.tmod, 6, r)
  | .mark '+' _ :: r => some ((· + ·), 5, r)
  | .mark '-' _ :: r => some ((· - ·), 5, r)
  | .mark '<' true :: .mark '<' _ :: r => some (bitwise (· <<< ·), 4, r)
  | .mark '>' true :: .mark '>' _ :: r => some (bitwise (· >>> ·), 4, r)
  | .mark '&' _ :: r => some (bitwise (· &&& ·), 3, r)
  | .mark '^' _ :: r => some (bitwise (· ^^^ ·), 2, r)
  | .mark '|' _ :: r => some (bitwise (· ||| ·), 1, r)
  | _ => none

/-- A value converted to the types that a code begins with, and what follows them. -/
def converted (v : Int) : Code → Int × Code
  | .word "as" :: .word s :: r =>
    converted ((IntegerType.ofName? s).elim v fun t => t.ofWord (t.toWord v)) r
  | r => (v, r)

/-- A constant of an integer type. -/
def named? (t : IntegerType) : String → Option Int
  | "MIN" => some t.least
  | "MAX" => some t.greatest
  | "BITS" => some t.bits
  | _ => none

/-! ## Values -/

mutual

/-- The value of the operand that a code begins with, and what follows it. -/
def operand? : Nat → Code → Option (Int × Code)
  | fuel + 1, .mark c _ :: r =>
    if c = '-' then (operand? fuel r).map fun (v, r) => (-v, r)
    else if c = '(' || c = '\x7b' then
      (expression? fuel 0 r).map fun (v, r) => (v, r.drop 1)
    else none
  | _, .number s :: r => (integer? s).map fun n => (n, r)
  | _, .literal s :: r => (characterNumber? s).map fun n => (n, r)
  | _, .word "true" :: r => some (1, r)
  | _, .word "false" :: r => some (0, r)
  | _, .word s :: _ :: _ :: .word c :: r =>
    ((IntegerType.ofName? s).bind (named? · c)).map fun v => (v, r)
  | _, _ => none

/-- The value of the expression that a code begins with, its operators being of the
level `least` or higher, and what follows it. -/
def expression? : Nat → Nat → Code → Option (Int × Code)
  | fuel + 1, least, c => do
    let (v, r) ← operand? fuel c
    let (v, r) := converted v r
    applied? fuel least v r
  | _, _, _ => none

/-- The value that operators make of a value in front of them, and what follows. -/
def applied? : Nat → Nat → Int → Code → Option (Int × Code)
  | fuel + 1, least, v, c =>
    match operator? c with
    | some (f, level, r) =>
      if least ≤ level then do
        let (w, r) ← expression? fuel (level + 1) r
        applied? fuel least (f v w) r
      else some (v, c)
    | none => some (v, c)
  | _, _, _, _ => none

end

/-- The number that the expression is which a code begins with, and what follows it. -/
def number? (c : Code) : Option (Nat × Code) :=
  (expression? (4 * c.length + 4) 0 c).map fun (v, r) => (v.toNat, r)

end Constant

end Coprocessor.Declare
