import Coprocessor.Declare.Lexeme
import Coprocessor.Text.Blank
import Coprocessor.Text.Lines

/-!
# Reading lexemes

`lexemes` cuts a text into lexemes. Blanks and comments stand between them and are
left out, but a comment that documents something is an attribute, and kept.
-/

namespace Coprocessor.Declare

/-! ## Names -/

/-- Whether a character only keeps lexemes apart. -/
def isGap (c : Char) : Bool :=
  Text.isBlank c || c == '\u200e' || c == '\u200f'

/-- Whether a name may begin with a character. -/
def beginsName (c : Char) : Bool :=
  c.isAlpha || c == '_' || (0x80 ≤ c.toNat && !isGap c)

/-- Whether a name may go on with a character. -/
def isNameChar (c : Char) : Bool :=
  beginsName c || c.isDigit

/-- The number of characters of the name that a text begins with. -/
def nameLength (s : List Char) : Nat :=
  (s.takeWhile isNameChar).length

/-- The number of characters of the name right after a literal. -/
def suffixLength (s : List Char) : Nat :=
  if s.head?.any beginsName then nameLength s else 0

/-! ## Quotes -/

/-- The number of characters of a quoted literal after its first quote. -/
def quotedLength (quote : Char) : List Char → Nat
  | [] => 0
  | '\\' :: _ :: r => quotedLength quote r + 2
  | c :: r => if c = quote then 1 else quotedLength quote r + 1

/-- The number of characters of a literal without escapes after its first quote, which
ends at a quote and as many number signs as stand before it. -/
def plainLength (signs : Nat) : List Char → Nat
  | [] => 0
  | c :: r =>
    if c = '"' && r.take signs == List.replicate signs '#' then signs + 1
    else plainLength signs r + 1

/-- The value of a digit in base 16. -/
def hexValue (c : Char) : Nat :=
  if c.isDigit then c.toNat - 0x30 else c.toLower.toNat - 0x61 + 10

/-- The number of some digits in base 16. -/
def hexNumber (digits : List Char) : Nat :=
  digits.foldl (fun n c => n * 16 + hexValue c) 0

/-- Whether a character is left out after an escaped end of a line. -/
def isIndent (c : Char) : Bool :=
  c == ' ' || c == '\t' || c == '\n' || c == '\r'

/-- What an escape stands for, the character after its backslash being `c`, and the
number of characters of `r` that belong to it. -/
def escaped (c : Char) (r : List Char) : List Char × Nat :=
  if c = 'n' then (['\n'], 0)
  else if c = 'r' then (['\r'], 0)
  else if c = 't' then (['\t'], 0)
  else if c = '0' then (['\x00'], 0)
  else if c = 'x' then ([Char.ofNat (hexNumber (r.take 2))], 2)
  else if c = 'u' then
    let digits := (r.drop 1).takeWhile (· != '\x7d')
    ([Char.ofNat (hexNumber (digits.filter (· != '_')))], digits.length + 2)
  else if c = '\n' || c = '\r' then ([], (r.takeWhile isIndent).length)
  else ([c], 0)

/-- What the inside of a quoted text says. The end of a line is one character. -/
def unescape : List Char → List Char
  | [] => []
  | [c] => [c]
  | c :: d :: r =>
    if c = '\\' then (escaped d r).1 ++ unescape (r.drop (escaped d r).2)
    else if c = '\r' && d = '\n' then unescape (d :: r)
    else c :: unescape (d :: r)
termination_by s => s.length
decreasing_by all_goals simp only [List.length_cons, List.length_drop]; omega

/-! ## Comments -/

/-- The number of characters before the end of a line. -/
def lineLength : List Char → Nat
  | [] => 0
  | '\n' :: _ => 0
  | '\r' :: '\n' :: _ => 0
  | _ :: r => lineLength r + 1

/-- The number of characters of a comment in brackets after its first bracket, `depth`
more being open. -/
def commentLength (depth : Nat) : List Char → Nat
  | [] => 0
  | '/' :: '*' :: r => commentLength (depth + 1) r + 2
  | '*' :: '/' :: r =>
    match depth with
    | 0 => 2
    | depth + 1 => commentLength depth r + 2
  | _ :: r => commentLength depth r + 1

/-- The attribute that a comment is, which is about what it stands in or what follows. -/
def documenting (inner : Bool) (s : List Char) : Code :=
  (.sign '#' :: if inner then [.sign '!'] else []) ++
    [.sign '[', .word "doc", .sign '=', .quote (String.ofList s), .sign ']']

/-- The comment that goes on with `r` after a slash, if one does : what it documents, and
its number of characters. -/
def comment? (r : List Char) : Option (Code × Nat) :=
  let line (s : List Char) := s.take (lineLength s)
  let block := commentLength 0 (r.drop 1)
  let inside := (r.take (block - 1)).drop 2
  match r with
  | '/' :: '/' :: '/' :: _ => some ([], lineLength r)
  | '/' :: '/' :: s => some (documenting false (line s), lineLength r)
  | '/' :: '!' :: s => some (documenting true (line s), lineLength r)
  | '/' :: _ => some ([], lineLength r)
  | '*' :: '*' :: '/' :: _ => some ([], 3)
  | '*' :: '*' :: '*' :: _ => some ([], block + 1)
  | '*' :: '*' :: _ => some (documenting false inside, block + 1)
  | '*' :: '!' :: _ => some (documenting true inside, block + 1)
  | '*' :: _ => some ([], block + 1)
  | _ => none

/-! ## Numbers -/

/-- The number of characters of the digits that a text begins with. -/
def digitsLength (s : List Char) : Nat :=
  (s.takeWhile fun c => c.isDigit || c == '_').length

/-- The number of characters of the digits that a text begins with, if there is one. -/
def digitsLength? (s : List Char) : Option Nat :=
  if (s.take (digitsLength s)).any (·.isDigit) then some (digitsLength s) else none

/-- The number of characters of an exponent after its letter. -/
def exponentLength? (s : List Char) : Option Nat :=
  let n := digitsLength s
  (digitsLength? s).or <|
    if (s.drop n).head? == some '+' || (s.drop n).head? == some '-' then
      (digitsLength? (s.drop (n + 1))).map (n + 1 + ·)
    else none

/-- The number of characters of the number that a text begins with. -/
def numberLength (s : List Char) : Nat :=
  let whole := digitsLength s
  let dotted := (s.drop whole).head? == some '.'
  if dotted && (s.drop (whole + 1)).head?.any (fun c => c == '.' || beginsName c) then whole
  else
    let n := if dotted then whole + 1 + digitsLength (s.drop (whole + 1)) else whole
    let m :=
      match s.drop n with
      | 'e' :: r | 'E' :: r => ((exponentLength? r).map (n + 1 + ·)).getD n
      | _ => n
    m + suffixLength (s.drop m)

/-! ## Cutting -/

/-- Whether a character is a sign that others may join. -/
def isSign (c : Char) : Bool :=
  ['~', '!', '@', '#', '$', '%', '^', '&', '*', '-', '=', '+', '|', ';', ':', ',', '<', '.', '>',
    '/', '?', '\''].contains c

/-- Whether a sign forms one sign with the characters after it. -/
def joins (r : List Char) : Bool :=
  r.head?.any isSign && r.take 2 != ['/', '/'] && r.take 2 != ['/', '*']

/-- The first `n` characters of a lexeme that goes on with `r` after `c`. -/
def spelled (c : Char) (r : List Char) (n : Nat) : String :=
  String.ofList (c :: r.take n)

/-- The literal that goes on with `r` after `c`, its quote being the one that `r` has at `n`. -/
def quotedLiteral (c : Char) (r : List Char) (n : Nat) : Lexeme × Nat :=
  let m := n + 1 + quotedLength ((r.drop n).headD '"') (r.drop (n + 1))
  let m := m + suffixLength (r.drop m)
  (.literal (spelled c r m), m)

/-- The literal without escapes that goes on with `r` after `c`, `n` characters of `r`
standing before its number signs. Without a letter before it, it is a text. -/
def plainLiteral (c : Char) (r : List Char) (n : Nat) : Lexeme × Nat :=
  let signs := ((r.drop n).takeWhile (· == '#')).length
  let inside := r.drop (n + signs + 1)
  let length := plainLength signs inside
  let m := n + signs + 1 + length
  let m := m + suffixLength (r.drop m)
  let content := String.ofList (inside.take (length - (signs + 1)))
  (if n = 0 then .text content (spelled c r m) else .literal (spelled c r m), m)

/-- A name, or a literal with letters in front of its quote, that begins with `c`. A name
that is a keyword else has a number sign after its first letter. -/
def wordOrLiteral (c : Char) (r : List Char) : Lexeme × Nat :=
  let n := nameLength r
  let front := c :: r.take n
  let quote := (r.drop n).head?
  if (front == ['r'] || front == ['b', 'r'] || front == ['c', 'r']) &&
      ((r.drop n).dropWhile (· == '#')).head? == some '"' then plainLiteral c r n
  else if (quote == some '"' && (front == ['b'] || front == ['c'])) ||
      (quote == some '\'' && front == ['b']) then quotedLiteral c r n
  else if quote == some '#' && front == ['r'] && (r.drop 1).head?.any beginsName then
    let m := 1 + nameLength (r.drop 1)
    (.word (spelled c r m), m)
  else (.word (String.ofList front), n)

/-- The text that goes on with `r` after its first quote. -/
def quotedText (r : List Char) : Lexeme × Nat :=
  let n := quotedLength '"' r
  let m := n + suffixLength (r.drop n)
  (.text (String.ofList (unescape (r.take (n - 1)))) (spelled '"' r m), m)

/-- The character between quotes that goes on with `r` after its first quote. -/
def quotedCharacter (r : List Char) : Lexeme × Nat :=
  let n := if r.head? == some '\\' then quotedLength '\'' r else 2
  let m := n + suffixLength (r.drop n)
  (.literal (spelled '\'' r m), m)

/-- The lexemes that a text begins with, its first character being `c`, and the number of
characters of `r` that belong to them. -/
def front (c : Char) (r : List Char) : Code × Nat :=
  let one (l : Lexeme × Nat) : Code × Nat := ([l.1], l.2)
  if isGap c then ([], 0)
  else if c = '"' then one (quotedText r)
  else if c = '\'' && (r.head? == some '\\' || (r.drop 1).head? == some '\'') then
    one (quotedCharacter r)
  else if c.isDigit then
    let n := numberLength (c :: r) - 1
    one (.number (spelled c r n), n)
  else if beginsName c then one (wordOrLiteral c r)
  else if c = '\'' then one (.mark c true, 0)
  else ((if c = '/' then comment? r else none).getD (one (.mark c (isSign c && joins r), 0)))

/-- The lexemes of a text. -/
def lexemes : List Char → Code
  | [] => []
  | c :: r => (front c r).1 ++ lexemes (r.drop (front c r).2)
termination_by s => s.length
decreasing_by simp only [List.length_cons, List.length_drop]; omega

/-- The lexemes of a text. -/
def code (s : String) : Code :=
  lexemes s.toList

/-- The lexemes of a text from a file, in which each line ends with a line feed alone. -/
def fileCode (s : String) : Code :=
  lexemes (Text.withLineFeeds s.toList)

end Coprocessor.Declare
