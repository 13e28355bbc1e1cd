import Coprocessor.Text.Quoted

/-!
# Lexemes

The written form of a declaration is a sequence of lexemes : names, numbers,
literals, and signs of one character. `written` puts them down, one blank between
each two.
-/

namespace Coprocessor.Declare

/-- A smallest part of a declaration. -/
inductive Lexeme where
  /-- A name or keyword. -/
  | word (s : String)
  /-- A number, as it is written. -/
  | number (s : String)
  /-- A text, by what it says and as it is written. -/
  | text (content spelled : String)
  /-- A literal of another kind, as it is written. -/
  | literal (s : String)
  /-- A sign, and whether it forms one sign with the one after it. -/
  | mark (c : Char) (joint : Bool)
  deriving DecidableEq, Repr

/-- A piece of a declaration. -/
abbrev Code := List Lexeme

namespace Lexeme

/-- A sign on its own. -/
def sign (c : Char) : Lexeme :=
  mark c false

/-- Whether a lexeme is a sign. -/
def isMark (c : Char) : Lexeme → Bool
  | mark d _ => d == c
  | _ => false

/-- Whether a lexeme is a sign that forms one sign with the one after it. -/
def isJoint (c : Char) (l : Lexeme) : Bool :=
  l == mark c true

/-- Whether a lexeme is a number. -/
def isNumber : Lexeme → Bool
  | number _ => true
  | _ => false

/-- Whether a lexeme opens brackets. -/
def opens (l : Lexeme) : Bool :=
  l.isMark '(' || l.isMark '[' || l.isMark '\x7b'

/-- Whether a lexeme closes brackets. -/
def closes (l : Lexeme) : Bool :=
  l.isMark ')' || l.isMark ']' || l.isMark '\x7d'

/-- Whether two lexemes are the sign between the parts of a path. -/
def isPathSign (l m : Lexeme) : Bool :=
  l.isJoint ':' && m.isMark ':'

/-! ## Writing -/

/-- A text between quotes. A NUL is written so that no digit after it joins it. -/
def quotedChars : List Char → List Char
  | [] => []
  | '\x00' :: r =>
    (if r.head?.any fun d => '0' ≤ d && d ≤ '7' then ['\\', 'x', '0', '0'] else ['\\', '0']) ++
      quotedChars r
  | c :: r => Text.escape c ++ quotedChars r

/-- The text that says `s`, in its usual spelling. -/
def quote (s : String) : Lexeme :=
  text s (String.ofList ('"' :: quotedChars s.toList ++ ['"']))

/-- A lexeme as it is written. -/
def written : Lexeme → String
  | word s | number s | literal s | text _ s => s
  | mark c _ => String.singleton c

end Lexeme

/-- Lexemes as they are written. -/
def written (c : Code) : String :=
  " ".intercalate (c.map Lexeme.written)

end Coprocessor.Declare
