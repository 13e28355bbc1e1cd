import Coprocessor.Declare.Shape
import Coprocessor.Text.Quoted

/-!
# How a value is written

A place of a message may ask for a width and a side, a sign, a base, a precision,
or the form in which a value shows its own structure. `Spec.write?` writes a value
accordingly, if it can be written so.
-/

namespace Coprocessor.Declare

/-- Where a text stands in a wider place. -/
inductive Side where
  /-- At its left. -/
  | left
  /-- In its middle. -/
  | middle
  /-- At its right. -/
  | right
  deriving DecidableEq, Repr

/-- A form of integers. -/
inductive NumberForm where
  /-- Base 10. -/
  | decimal
  /-- Base 16. -/
  | hex (upper : Bool)
  /-- Base 8. -/
  | octal
  /-- Base 2. -/
  | binary
  /-- Base 10 with an exponent. -/
  | exponent (upper : Bool)
  deriving DecidableEq, Repr

/-- How a value is written. -/
structure Spec where
  /-- What fills the place. -/
  fill : Char := ' '
  /-- Where the text stands in its place. -/
  side : Option Side := none
  /-- Whether positive numbers have a sign. -/
  plus : Bool := false
  /-- Whether numbers show their base, and lists take lines of their own. -/
  alternate : Bool := false
  /-- Whether zeros fill the place of a number. -/
  zeros : Bool := false
  /-- The least width of the place. -/
  width : Nat := 0
  /-- The greatest length of a text, and the number of digits before an exponent. -/
  precision : Option Nat := none
  /-- Whether the structure of the value is shown. -/
  structured : Bool := false
  /-- The form of integers. -/
  form : NumberForm := .decimal
  deriving DecidableEq, Repr

namespace Spec

/-! ## Filling places -/

/-- A text in its place, at `usual` unless a side is asked for. -/
def pad (s : Spec) (usual : Side) (text : List Char) : List Char :=
  let room := s.width - text.length
  let before :=
    match s.side.getD usual with
    | .left => 0
    | .middle => room / 2
    | .right => room
  List.replicate before s.fill ++ text ++ List.replicate (room - before) s.fill

/-- A place is as wide as it asks to be, and as its text. -/
theorem length_pad (s : Spec) (usual : Side) (text : List Char) :
    (s.pad usual text).length = max s.width text.length := by
  simp only [pad, List.length_append, List.length_replicate]
  cases s.side.getD usual <;> simp only <;> omega

/-- A number in its place, by its sign, the mark of its base and its digits. -/
def number (s : Spec) (negative : Bool) (mark : String) (digits : List Char) : List Char :=
  let front := (if negative then ['-'] else if s.plus then ['+'] else []) ++
    (if s.alternate then mark.toList else [])
  if s.zeros then
    front ++ List.replicate (s.width - front.length - digits.length) '0' ++ digits
  else s.pad .right (front ++ digits)

/-- A text in its place, cut to the precision. -/
def text (s : Spec) (t : List Char) : List Char :=
  s.pad .left (match s.precision with | some n => t.take n | none => t)

/-! ## Integers -/

/-- The nearest integer to a quotient, the even one of two. -/
def nearest (n d : Nat) : Nat :=
  if 2 * (n % d) < d || (2 * (n % d) == d && n / d % 2 == 0) then n / d else n / d + 1

/-- A number with one digit, `places` more after a point, and an exponent; as many as it
needs if none are asked for. -/
def exponential (places : Option Nat) (mark : Char) (n : Nat) : List Char :=
  let digits := Nat.toDigits 10 n
  let exponent := digits.length - 1
  let needed := (digits.reverse.dropWhile (· == '0')).length - 1
  let places := places.getD needed
  let scaled := if places ≤ exponent then nearest n (Nat.pow 10 (exponent - places))
    else n * Nat.pow 10 (places - exponent)
  let (scaled, exponent) :=
    if scaled = Nat.pow 10 (places + 1) then (scaled / 10, exponent + 1) else (scaled, exponent)
  let digits := Nat.toDigits 10 scaled
  let fraction := digits.drop 1 ++ List.replicate (places + 1 - digits.length) '0'
  digits.take 1 ++ (if places = 0 then [] else '.' :: fraction) ++
    mark :: Nat.toDigits 10 exponent

/-- An integer of some type. In a base other than 10 it is written by its bits. -/
def integer (s : Spec) (t : IntegerType) (v : Int) : List Char :=
  let word := t.toWord v
  match s.form with
  | .decimal => s.number (v < 0) "" (Nat.toDigits 10 v.natAbs)
  | .hex upper =>
    let digits := Nat.toDigits 16 word
    s.number false "0x" (if upper then digits.map Char.toUpper else digits)
  | .octal => s.number false "0o" (Nat.toDigits 8 word)
  | .binary => s.number false "0b" (Nat.toDigits 2 word)
  | .exponent upper =>
    s.number (v < 0) "" (exponential s.precision (if upper then 'E' else 'e') v.natAbs)

/-! ## Values -/

/-- A text with each of its lines moved in. -/
def indented (t : List Char) : List Char :=
  let blanks := [' ', ' ', ' ', ' ']
  blanks ++ t.flatMap fun c => if c = '\n' then c :: blanks else [c]

/-- Texts between an opening and a closing bracket, which has a blank beside it in a record
of names. -/
def enclosed (s : Spec) (opening closing gap : List Char) (texts : List (List Char)) :
    List Char :=
  if s.alternate then
    opening ++ '\n' :: texts.flatMap (fun t => indented t ++ [',', '\n']) ++ closing
  else opening ++ gap ++ [',', ' '].intercalate texts ++ gap ++ closing

/-- Texts as a list. -/
def listed (s : Spec) (texts : List (List Char)) : List Char :=
  if texts.isEmpty then ['[', ']'] else s.enclosed ['['] [']'] [] texts

/-- Whether texts can be written so. -/
def takesText (s : Spec) : Bool :=
  s.structured || s.form == .decimal

/-- A value as it is asked for, if it can be written so. -/
def write? (s : Spec) : (f : Shape) → f.Value → Option (List Char)
  | .integer t, (v : Int) => some (s.integer t v)
  | .bool, (v : Bool) =>
    if s.takesText then some (s.text (if v then "true" else "false").toList) else none
  | .text, (v : String) =>
    if s.structured then some (Text.quoted v).toList
    else if s.takesText then some (s.text v.toList) else none
  | .list f, (vs : List f.Value) =>
    if s.structured then (vs.mapM (s.write? f)).map s.listed else none
  | .array f _, vs => if s.structured then (vs.1.mapM (s.write? f)).map s.listed else none

/-! ## Records -/

/-- A record by the texts of its fields, which have names. -/
def namedRecord (s : Spec) (name : List Char) (fields : List (List Char × List Char)) :
    List Char :=
  let texts := fields.map fun f => f.1 ++ [':', ' '] ++ f.2
  if texts.isEmpty then name
  else name ++ ' ' :: s.enclosed ['\x7b'] ['\x7d'] [' '] texts

/-- A record by the texts of its fields, which have positions. -/
def positionalRecord (s : Spec) (name : List Char) (texts : List (List Char)) : List Char :=
  if texts.isEmpty then name else name ++ s.enclosed ['('] [')'] [] texts

end Spec

end Coprocessor.Declare
