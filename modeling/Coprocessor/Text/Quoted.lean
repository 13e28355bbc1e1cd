import Coprocessor.Text.Unshown

/-!
# Quoted text

A text between double quotes, in which quotes, backslashes and characters that do
not show are escaped.
-/

namespace Coprocessor.Text

/-- A number in base 16, without zeros in front. -/
def hexNumber (n : Nat) : List Char :=
  Nat.toDigits 16 n

/-- How a character stands between double quotes. -/
def escape (c : Char) : List Char :=
  if c = '\x00' then ['\\', '0']
  else if c = '\t' then ['\\', 't']
  else if c = '\r' then ['\\', 'r']
  else if c = '\n' then ['\\', 'n']
  else if c = '"' || c = '\\' then ['\\', c]
  else if isUnshown c then ['\\', 'u', '\x7b'] ++ hexNumber c.toNat ++ ['\x7d']
  else [c]

/-- A text between double quotes. -/
def quoted (s : String) : String :=
  String.ofList ('"' :: s.toList.flatMap escape ++ ['"'])

/-- A double quote inside a quoted text is escaped. -/
theorem escape_quote : escape '"' = ['\\', '"'] := by decide

end Coprocessor.Text
